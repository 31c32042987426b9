/-
Machines whose calls are answered, and the log of their calls with the answers,
the last one first.  A property of a log says how each entry stands to the
entries before it.
-/
import IlinkHub.Transition

namespace History

open Transition

universe u v w

section Each
variable {α : Type u}

/-- Every entry stands in the relation to what came before it. -/
def Each (J : α → List α → Prop) : List α → Prop
  | [] => True
  | entry :: earlier => J entry earlier ∧ Each J earlier

variable {log : List α} {Start Kind : α → Prop}

lemma Each.imp {J K : α → List α → Prop} (himp : ∀ entry earlier, J entry earlier → K entry earlier)
    (heach : Each J log) : Each K log := by
  induction log with
  | nil => trivial
  | cons entry earlier ih =>
    exact ⟨himp entry earlier heach.1, ih heach.2⟩

/-- The last entry for which something was decided, with nothing of another kind
since. -/
def Since (Start Quiet : α → Prop) (log : List α) : Prop :=
  ∃ later start earlier, log = later ++ start :: earlier ∧ Start start ∧
    ∀ entry ∈ later, Quiet entry

lemma since_cons_start {Quiet : α → Prop} {entry : α}
    (hstart : Start entry) : Since Start Quiet (entry :: log) :=
  ⟨[], entry, log, rfl, hstart, by simp⟩

lemma Since.cons {Quiet : α → Prop} {entry : α} (hsince : Since Start Quiet log)
    (hquiet : Quiet entry) : Since Start Quiet (entry :: log) := by
  obtain ⟨later, start, earlier, rfl, hstart, hlater⟩ := hsince
  refine ⟨entry :: later, start, earlier, rfl, hstart, ?_⟩
  intro other hother
  rcases List.mem_cons.mp hother with rfl | hother
  · exact hquiet
  · exact hlater other hother

lemma since_cons_iff {Quiet : α → Prop} {entry : α} : Since Start Quiet (entry :: log) ↔
    Start entry ∨ Quiet entry ∧ Since Start Quiet log := by
  constructor
  · rintro ⟨later, start, earlier, heq, hstart, hquiet⟩
    cases later with
    | nil =>
      cases heq
      exact .inl hstart
    | cons head later =>
      cases heq
      obtain ⟨hhead, hlater⟩ := List.forall_mem_cons.mp hquiet
      exact .inr ⟨hhead, later, start, earlier, rfl, hstart, hlater⟩
  · rintro (hstart | ⟨hquiet, hsince⟩)
    · exact since_cons_start hstart
    · exact hsince.cons hquiet

/-- The first entry of a kind. -/
def First (Start Kind : α → Prop) (log : List α) : Prop :=
  ∃ later start earlier, log = later ++ start :: earlier ∧ Start start ∧
    ∀ entry ∈ earlier, ¬ Kind entry

lemma first_cons_start {entry : α} (hstart : Start entry)
    (hfirst : ∀ other ∈ log, ¬ Kind other) : First Start Kind (entry :: log) :=
  ⟨[], entry, log, rfl, hstart, hfirst⟩

lemma First.cons (hfirst : First Start Kind log) (entry : α) : First Start Kind (entry :: log) := by
  obtain ⟨later, start, earlier, rfl, hstart, hearlier⟩ := hfirst
  exact ⟨entry :: later, start, earlier, rfl, hstart, hearlier⟩

lemma First.mem (hfirst : First Start Kind log) : ∃ start ∈ log, Start start := by
  obtain ⟨later, start, earlier, rfl, hstart, -⟩ := hfirst
  exact ⟨start, by simp, hstart⟩

end Each

variable {S : Type u} {C : Type v} {A : Type w} {call : S → C → A × S}

/-- A state and the log of the calls that led to it. -/
structure Recorded (S : Type u) (C : Type v) (A : Type w) where
  state : S
  log : List (C × A)

/-- One call, with the answer that it gets. -/
def record (call : S → C → A × S) (recorded : Recorded S C A) (c : C) : Recorded S C A where
  state := (call recorded.state c).2
  log := (c, (call recorded.state c).1) :: recorded.log

def start (state : S) : Recorded S C A :=
  ⟨state, []⟩

/-- The log does not change what the machine does. -/
lemma state_run_record (call : S → C → A × S) (recorded : Recorded S C A) (calls : List C) :
    (run (record call) recorded calls).state = run (fun state c => (call state c).2) recorded.state
        calls := by
  induction calls generalizing recorded with
  | nil => rfl
  | cons c calls ih => exact ih (record call recorded c)

/-- An invariant that justifies every answer when it is given. -/
lemma each_of_everyStep {Cond : Recorded S C A → C → Prop} {Inv : Recorded S C A → Prop}
    {J : C × A → List (C × A) → Prop}
    (hstep : ∀ recorded c, Inv recorded → Cond recorded c → Inv (record call recorded c) ∧
        J (c, (call recorded.state c).1) recorded.log)
    {state : S} (hstate : Inv (start state)) {calls : List C}
    (hevery : EveryStep (record call) Cond (start state) calls) :
    Inv (run (record call) (start state) calls) ∧
      Each J (run (record call) (start state) calls).log := by
  apply run_invariant_of_everyStep
    (fun recorded c (hinv : Inv recorded ∧ Each J recorded.log) hcond => ?_)
    ⟨hstate, trivial⟩ hevery
  obtain ⟨hnext, hjustified⟩ := hstep recorded c hinv.1 hcond
  exact ⟨hnext, hjustified, hinv.2⟩

/-- The calls with their answers in the words of another machine. -/
def translate {B : Type*} (f : B → A) (log : List (C × B)) : List (C × A) :=
  log.map (Prod.map id f)

lemma mem_translate {B : Type*} {f : B → A} {log : List (C × B)} {entry : C × A} :
    entry ∈ translate f log ↔ ∃ c b, (c, b) ∈ log ∧ entry = (c, f b) := by
  simp only [translate, List.mem_map, Prod.exists]
  constructor
  · rintro ⟨c, b, hmem, rfl⟩
    exact ⟨c, b, hmem, rfl⟩
  · rintro ⟨c, b, hmem, rfl⟩
    exact ⟨c, b, hmem, rfl⟩

/-- A machine that gives the answers of its specification at every call gives
them along every run. -/
lemma refines_of_everyStep {T B : Type*}
    {spec : T → C → B × T} {f : B → A} {Rel : S → Recorded T C B → Prop}
    {Cond : Recorded S C A → C → Prop}
    (hstep : ∀ state recorded c, Rel state recorded → Cond ⟨state, translate f recorded.log⟩ c →
      (call state c).1 = f (spec recorded.state c).1 ∧
        Rel (call state c).2 (record spec recorded c))
    {state : S} {recorded : Recorded T C B} (hrel : Rel state recorded) {calls : List C}
    (hevery : EveryStep (record call) Cond ⟨state, translate f recorded.log⟩ calls) :
    (run (record call) ⟨state, translate f recorded.log⟩ calls).log =
        translate f (run (record spec) recorded calls).log ∧
      Rel (run (record call) ⟨state, translate f recorded.log⟩
        calls).state (run (record spec) recorded calls) := by
  induction calls generalizing state recorded with
  | nil => exact ⟨rfl, hrel⟩
  | cons c calls ih =>
    obtain ⟨hanswer, hnext⟩ := hstep state recorded c hrel hevery.1
    have hrecord : record call ⟨state, translate f recorded.log⟩ c =
        ⟨(call state c).2, translate f (record spec recorded c).log⟩ := by
      simp [record, translate, hanswer]
    rw [run_cons, hrecord]
    apply ih hnext
    rw [← hrecord]
    exact hevery.2

end History
