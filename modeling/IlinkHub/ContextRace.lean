/-
Concurrent `find_or_create_vctx` calls for one conversation: the statements of any
number of calls run in any order.  The upsert that would make the calls free of
races never finds its index, so all of them look the conversation up and insert
it in two statements.
-/
import Mathlib.Data.Fintype.Basic
import IlinkHub.ContextSql
import IlinkHub.Transition

namespace IlinkHub

open ContextTable VctxCall Transition Query

/-- The row of a context has the key. -/
def ContextTable.Stands (table : ContextTable) (key vctx : String) : Prop :=
  ∃ row, table.lookup vctx = some row ∧ row.peerUserId = some key

lemma ContextTable.selectByPeer_of_stands {table : ContextTable}
    {key vctx : String} (hstands : table.Stands key vctx) :
    ∃ own, table.selectByPeer key = some own ∧ table.Stands key own := by
  obtain ⟨row, hrow, hpeer⟩ := hstands
  cases hfound : table.selectByPeer key with
  | none => exact absurd hpeer (selectByPeer_eq_none_iff.mp hfound _ _ hrow)
  | some own => exact ⟨own, rfl, of_selectByPeer hfound⟩

namespace VctxPhase

/-- The insertion may still come. -/
def pending : VctxPhase → Bool
  | .upsert | .select | .insert => true
  | .update _ | .reselect | .done _ => false

/-- How many statements may still come. -/
def remaining : VctxPhase → Nat
  | .upsert => 4
  | .select => 3
  | .insert => 2
  | .update _ | .reselect => 1
  | .done _ => 0

lemma done_of_remaining {phase : VctxPhase} (hnone : phase.remaining = 0) :
    ∃ result, phase = .done result := by
  cases phase with
  | done result => exact ⟨result, rfl⟩
  | _ => cases hnone

end VctxPhase

namespace VctxCall

variable {kind : DatabaseKind} {call : VctxCall} {table : ContextTable} {phase : VctxPhase}

/-- An insertion comes when no row has the conversation, and what is written is
not the real context of another row. -/
def Admissible (call : VctxCall) (table : ContextTable) : VctxPhase → Prop
  | .insert => table.selectByPeer call.convKey = none ∧
      table.hasRealCtx call.realCtx = false
  | .update vctx =>
    hasRealCtx (table.erase vctx) call.realCtx = false
  | .upsert | .select | .reselect | .done _ => True

instance (call : VctxCall) (table : ContextTable) (phase : VctxPhase) :
    Decidable (call.Admissible table phase) := by
  cases phase <;> dsimp only [Admissible] <;> infer_instance

variable {vctx : String}

lemma step_update {row : ContextRow} (hrow : table.lookup vctx = some row) :
    call.step kind table (.update vctx) =
      if hasRealCtx (table.erase vctx) call.realCtx then
        (table, .done (.error (kind.uniqueViolation .realCtx)))
      else (table.insert vctx { row with realCtx := call.realCtx }, .done (.ok vctx)) := by
  simp only [step, updateRealCtx, hrow]
  cases hasRealCtx (table.erase vctx) call.realCtx with
  | true => rfl
  | false => rfl

lemma step_insert (hnone : table.lookup call.insertCandidate = none) :
    call.step kind table .insert =
      if table.hasRealCtx call.realCtx then
        (table, .done (.error (kind.uniqueViolation .realCtx)))
      else if table.hasPeer (some call.convKey) then
        (table, .done (.error (kind.uniqueViolation .peerUserId)))
      else (table.insert call.insertCandidate call.row, .reselect) := by
  simp only [step, insertInto_vctx_of_none hnone]
  simp only [row]
  by_cases hreal : table.hasRealCtx call.realCtx = true
  · simp [hreal]
  · by_cases hpeer : table.hasPeer (some call.convKey) = true
    · simp only [hreal, hpeer]
      rfl
    · simp only [hreal, hpeer]
      rfl

/-- What a statement does to the table: nothing, an update of the row that was
found, or an insertion where no row has the conversation. -/
lemma table_step (kind : DatabaseKind) (hkey : call.convKey ≠ "")
    (hcandidate : phase.pending = true → table.lookup call.insertCandidate = none) :
    (call.step kind table phase).1 = table ∨
      (∃ vctx row, phase = .update vctx ∧ table.lookup vctx = some row ∧
        (call.step kind table phase).1 = table.insert vctx { row with realCtx := call.realCtx }) ∨
      (phase = .insert ∧ table.selectByPeer call.convKey = none ∧ (call.step kind table phase).1 =
          table.insert call.insertCandidate call.row ∧
        (call.step kind table phase).2 = .reselect) := by
  cases phase with
  | upsert =>
    left
    rw [step_upsert]
  | select | reselect | done result => exact .inl rfl
  | update vctx =>
    cases hrow : table.lookup vctx with
    | none =>
      simp [step, updateRealCtx, hrow]
    | some row =>
      rw [step_update hrow]
      split
      · exact .inl rfl
      · exact .inr (.inl ⟨vctx, row, rfl, hrow, rfl⟩)
  | insert =>
    rw [step_insert (hcandidate rfl)]
    split
    · exact .inl rfl
    · split
      · exact .inl rfl
      · next hpeer =>
        rw [Bool.not_eq_true, hasPeer_eq_false_iff] at hpeer
        exact .inr (.inr ⟨rfl, hpeer.resolve_left hkey, rfl, rfl⟩)

lemma stands_step {key : String} (hkey : call.convKey ≠ "")
    (hcandidate : phase.pending = true → table.lookup call.insertCandidate = none)
    (hstands : table.Stands key vctx) : Stands (call.step kind table phase).1 key vctx := by
  obtain ⟨row, hrow, hpeer⟩ := hstands
  rcases table_step kind hkey hcandidate with
    hsame | ⟨own, old, -, hold, hafter⟩ | ⟨rfl, -, hafter, -⟩
  · rw [hsame]
    exact ⟨row, hrow, hpeer⟩
  · rw [hafter, Stands]
    simp only [lookup_insert]
    by_cases hown : vctx = own
    · subst hown
      rw [hrow] at hold
      cases hold
      exact ⟨_, if_pos rfl, hpeer⟩
    · exact ⟨row, (if_neg hown).trans hrow, hpeer⟩
  · rw [hafter, Stands]
    simp only [lookup_insert]
    have hown : vctx ≠ call.insertCandidate := by
      rintro rfl
      simp [hcandidate rfl] at hrow
    exact ⟨row, (if_neg hown).trans hrow, hpeer⟩

/-- A row of the conversation was one, or it has just been inserted as the
first. -/
lemma of_stands_step (hkey : call.convKey ≠ "")
    (hcandidate : phase.pending = true → table.lookup call.insertCandidate = none)
    (hstands : Stands (call.step kind table phase).1 call.convKey vctx) :
    table.Stands call.convKey vctx ∨ vctx = call.insertCandidate ∧
        table.selectByPeer call.convKey = none := by
  obtain ⟨row, hrow, hpeer⟩ := hstands
  rcases table_step kind hkey hcandidate with
    hsame | ⟨own, old, -, hold, hafter⟩ | ⟨rfl, hnone, hafter, -⟩
  · rw [hsame] at hrow
    exact .inl ⟨row, hrow, hpeer⟩
  · rw [hafter, lookup_insert] at hrow
    split at hrow
    · next hown =>
      cases hrow
      exact .inl ⟨old, hown ▸ hold, hpeer⟩
    · exact .inl ⟨row, hrow, hpeer⟩
  · rw [hafter, lookup_insert] at hrow
    split at hrow
    · next hown => exact .inr ⟨hown, hnone⟩
    · exact .inl ⟨row, hrow, hpeer⟩

/-- A name that was not drawn for the call is not added. -/
lemma lookup_step_of_ne (hkey : call.convKey ≠ "")
    (hcandidate : phase.pending = true → table.lookup call.insertCandidate = none)
    (hne : vctx ≠ call.insertCandidate) (hnone : table.lookup vctx = none) :
    (call.step kind table phase).1.lookup vctx = none := by
  rcases table_step kind hkey hcandidate with
    hsame | ⟨own, old, -, hold, hafter⟩ | ⟨rfl, -, hafter, -⟩
  · rw [hsame]
    exact hnone
  · rw [hafter, lookup_insert, if_neg ?_]
    · exact hnone
    · rintro rfl
      simp [hnone] at hold
  · rw [hafter, lookup_insert, if_neg hne]
    exact hnone

lemma pending_step (hpending : (call.step kind table phase).2.pending = true) :
    phase.pending = true ∧ (call.step kind table phase).1 = table := by
  cases phase with
  | upsert => exact ⟨rfl, by rw [step_upsert]⟩
  | select => exact ⟨rfl, rfl⟩
  | update vctx =>
    simp only [step] at hpending
    split at hpending <;> cases hpending
  | insert =>
    simp only [step] at hpending
    split at hpending <;> cases hpending
  | reselect => cases hpending
  | done result => cases hpending

lemma found_step (hkey : call.convKey ≠ "")
    (hcandidate : phase.pending = true → table.lookup call.insertCandidate = none)
    (hfound : ∀ own, phase = .update own ∨ phase = .done (.ok own) → table.Stands call.convKey own)
    (hinserted : phase = .reselect → ∃ own, table.Stands call.convKey own)
    (hnext : (call.step kind table phase).2 = .update vctx ∨
      (call.step kind table phase).2 = .done (.ok vctx)) :
    Stands (call.step kind table phase).1 call.convKey vctx := by
  cases phase with
  | upsert => simp [step_upsert] at hnext
  | select =>
    simp only [step] at hnext ⊢
    split at hnext
    · next own hown =>
      simp only [VctxPhase.update.injEq, reduceCtorEq, or_false] at hnext
      subst hnext
      exact of_selectByPeer hown
    · simp at hnext
  | update own =>
    have hown : own = vctx := by
      simp only [step] at hnext
      split at hnext
      · simpa using hnext
      · simp at hnext
    subst hown
    exact stands_step hkey hcandidate (hfound own (Or.inl rfl))
  | insert =>
    simp only [step] at hnext
    split at hnext <;> simp at hnext
  | reselect =>
    obtain ⟨first, hfirst⟩ := hinserted rfl
    obtain ⟨own, hselect, hown⟩ := selectByPeer_of_stands hfirst
    simp only [step, hkey, hselect, reduceCtorEq,
      false_or, VctxPhase.done.injEq, Except.ok.injEq] at hnext
    subst hnext
    exact hown
  | done result =>
    simp only [step, reduceCtorEq, false_or] at hnext
    exact hfound vctx (.inr hnext)

lemma inserted_step (hcandidate : phase.pending = true → table.lookup call.insertCandidate = none)
    (hnext : (call.step kind table phase).2 = .reselect) :
    Stands (call.step kind table phase).1 call.convKey call.insertCandidate := by
  cases phase with
  | upsert => simp [step_upsert] at hnext
  | select =>
    simp only [step] at hnext
    split at hnext <;> cases hnext
  | update vctx =>
    simp only [step] at hnext
    split at hnext <;> cases hnext
  | insert =>
    rw [step_insert (hcandidate rfl)] at hnext ⊢
    split at hnext
    · cases hnext
    · next hreal =>
      split at hnext
      · cases hnext
      · next hpeer =>
        rw [if_neg hreal, if_neg hpeer]
        exact ⟨call.row, AList.lookup_insert table, rfl⟩
  | reselect => cases hnext
  | done result => cases hnext

/-- The only statements that fail are those that an index refuses. -/
lemma failed_iff (kind : DatabaseKind) (hkey : call.convKey ≠ "")
    (hcandidate : phase.pending = true → table.lookup call.insertCandidate = none)
    (hfound : ∀ own, phase = .update own → table.Stands call.convKey own)
    (hdone : ∀ result, phase = .done result → ∃ own, result = .ok own) :
    (∀ result, (call.step kind table phase).2 = .done result →
      ∃ own, result = .ok own) ↔ call.Admissible table phase := by
  cases phase with
  | upsert => simp [step_upsert, Admissible]
  | select =>
    simp only [step, Admissible]
    split <;> simp
  | update vctx =>
    obtain ⟨row, hrow, -⟩ := hfound vctx rfl
    rw [step_update hrow, Admissible]
    cases hasRealCtx (table.erase vctx) call.realCtx with
    | true => simp
    | false => simp
  | insert =>
    have hpeer : table.selectByPeer call.convKey = none ↔
        table.hasPeer (some call.convKey) = false := by
      rw [hasPeer_eq_false_iff, or_iff_right hkey]
    rw [step_insert (hcandidate rfl), Admissible, hpeer]
    cases table.hasRealCtx call.realCtx with
    | true => simp
    | false =>
      cases table.hasPeer (some call.convKey) with
      | true => simp
      | false => simp
  | reselect => simp [step, Admissible]
  | done result =>
    simp only [Admissible, iff_true]
    exact hdone

lemma remaining_step (kind : DatabaseKind) (call : VctxCall) (table : ContextTable)
    (phase : VctxPhase) : (call.step kind table phase).2.remaining ≤ phase.remaining - 1 := by
  cases phase with
  | upsert =>
    rw [step_upsert]
    exact le_rfl
  | select =>
    simp only [step]
    split
    · simp [VctxPhase.remaining]
    · exact le_rfl
  | update vctx =>
    simp only [step]
    split
    · exact le_rfl
    · exact le_rfl
  | insert =>
    simp only [step]
    split
    · exact le_rfl
    · simp [VctxPhase.remaining]
  | reselect => exact le_rfl
  | done result => exact le_rfl

end VctxCall

universe u

/-- The table and where each call is. -/
structure VctxRace (ι : Type u) where
  table : ContextTable
  phases : ι → VctxPhase

namespace VctxRace

variable {ι : Type u}

def start (calls : ι → VctxCall) (table : ContextTable) : VctxRace ι :=
  ⟨table, fun i => (calls i).start⟩

/-- The next statement of a call. -/
def step [DecidableEq ι] (kind : DatabaseKind) (calls : ι → VctxCall)
    (state : VctxRace ι) (i : ι) : VctxRace ι :=
  let result := (calls i).step kind state.table (state.phases i)
  ⟨result.1, Function.update state.phases i result.2⟩

/-- The calls that are done have succeeded, all with one context. -/
structure Succeeds (state : VctxRace ι) : Prop where
  ok : ∀ i result, state.phases i = .done result → ∃ vctx, result = .ok vctx
  same : ∀ i j vctx other, state.phases i = .done (.ok vctx) →
    state.phases j = .done (.ok other) → vctx = other

/-- Where the calls are, and what they have found. -/
structure Consistent (calls : ι → VctxCall) (key : String)
    (state : VctxRace ι) : Prop where
  unique : ∀ vctx other, state.table.Stands key vctx → state.table.Stands key other → vctx = other
  fresh : ∀ i, (state.phases i).pending = true → state.table.lookup (calls i).insertCandidate = none
  found : ∀ i vctx, state.phases i = .update vctx ∨
    state.phases i = .done (.ok vctx) → state.table.Stands key vctx
  inserted : ∀ i, state.phases i = .reselect → ∃ vctx, state.table.Stands key vctx

variable {kind : DatabaseKind} {calls : ι → VctxCall} {key : String} {state : VctxRace ι}

lemma phases_start {table : ContextTable} (hkey : key ≠ "")
    (hkeys : ∀ i, (calls i).convKey = key) (i : ι) : (start calls table).phases i = .upsert := by
  simp [start, VctxCall.start, hkeys i, hkey]

lemma Consistent.start {table : ContextTable} (hkey : key ≠ "")
    (hkeys : ∀ i, (calls i).convKey = key)
    (hunique : ∀ vctx other, table.Stands key vctx → table.Stands key other → vctx = other)
    (hfresh : ∀ i, table.lookup (calls i).insertCandidate = none) :
    Consistent calls key (.start calls table) := by
  refine ⟨hunique, fun i _ => hfresh i, ?_, ?_⟩
  · intro i vctx hphase
    rw [phases_start hkey hkeys] at hphase
    simp at hphase
  · intro i hphase
    simp [phases_start hkey hkeys] at hphase

variable [DecidableEq ι]

lemma phases_step_of_ne {i j : ι} (hne : j ≠ i) :
    (state.step kind calls i).phases j = state.phases j :=
  Function.update_of_ne hne ..

lemma phases_step_self {i : ι} :
    (state.step kind calls i).phases i = ((calls i).step kind state.table (state.phases i)).2 :=
  Function.update_self ..

/-- No call inserts a conversation that has a row. -/
lemma Consistent.unique_step (kind : DatabaseKind)
    (hcons : Consistent calls key state) (hkey : key ≠ "")
    (hkeys : ∀ i, (calls i).convKey = key) (i : ι) {vctx other : String}
    (hvctx : (state.step kind calls i).table.Stands key vctx)
    (hother : (state.step kind calls i).table.Stands key other) : vctx = other := by
  have hown := (hkeys i).symm ▸ hkey
  have hnew : ∀ own, state.table.Stands key own →
      state.table.selectByPeer (calls i).convKey ≠ none := by
    rintro own ⟨row, hrow, hpeer⟩ hnone
    rw [hkeys i] at hnone
    exact selectByPeer_eq_none_iff.mp hnone _ _ hrow hpeer
  rw [← hkeys i] at hvctx hother
  rcases of_stands_step hown (hcons.fresh i) hvctx with
    hleft | ⟨rfl, hnone⟩
  · rw [hkeys i] at hleft
    rcases of_stands_step hown (hcons.fresh i) hother with
      hright | ⟨-, hnone⟩
    · exact hcons.unique vctx other hleft (hkeys i ▸ hright)
    · exact absurd hnone (hnew vctx hleft)
  · rcases of_stands_step hown (hcons.fresh i) hother with
      hright | ⟨hsame, -⟩
    · exact absurd hnone (hnew other (hkeys i ▸ hright))
    · exact hsame.symm

lemma Consistent.step (kind : DatabaseKind) (hcons : Consistent calls key state) (hkey : key ≠ "")
    (hkeys : ∀ i, (calls i).convKey = key)
    (hdrawn : ∀ i j, (calls i).insertCandidate = (calls j).insertCandidate → i = j) (i : ι) :
    Consistent calls key (state.step kind calls i) := by
  have hown := (hkeys i).symm ▸ hkey
  have hcandidate := hcons.fresh i
  have hkept : ∀ vctx, state.table.Stands key vctx →
      (state.step kind calls i).table.Stands key vctx :=
    fun vctx hstands => stands_step hown hcandidate hstands
  refine ⟨?_, ?_, ?_, ?_⟩
  · intro vctx other hvctx hother
    exact hcons.unique_step kind hkey hkeys i hvctx hother
  · intro j hpending
    by_cases hji : j = i
    · subst hji
      rw [phases_step_self] at hpending
      obtain ⟨hbefore, hsame⟩ := pending_step hpending
      rw [VctxRace.step, hsame]
      exact hcandidate hbefore
    · rw [phases_step_of_ne hji] at hpending
      exact lookup_step_of_ne hown hcandidate
        (fun hsame => hji (hdrawn j i hsame)) (hcons.fresh j hpending)
  · intro j vctx hphase
    by_cases hji : j = i
    · subst hji
      rw [phases_step_self] at hphase
      rw [← hkeys j]
      refine found_step hown hcandidate ?_ ?_ hphase
      · rw [hkeys j]
        exact hcons.found j
      · rw [hkeys j]
        exact hcons.inserted j
    · rw [phases_step_of_ne hji] at hphase
      exact hkept vctx (hcons.found j vctx hphase)
  · intro j hphase
    by_cases hji : j = i
    · subst hji
      rw [phases_step_self] at hphase
      rw [← hkeys j]
      exact ⟨_, inserted_step hcandidate hphase⟩
    · rw [phases_step_of_ne hji] at hphase
      obtain ⟨vctx, hstands⟩ := hcons.inserted j hphase
      exact ⟨vctx, hkept vctx hstands⟩

/-- The next statement of the call is one that no index refuses. -/
def Admissible (calls : ι → VctxCall) (state : VctxRace ι) (i : ι) : Prop :=
  (calls i).Admissible state.table (state.phases i)
deriving Decidable

lemma succeeds_step_iff (hcons : Consistent calls key state) (hkey : key ≠ "")
    (hkeys : ∀ i, (calls i).convKey = key)
    (hdrawn : ∀ i j, (calls i).insertCandidate = (calls j).insertCandidate →
      i = j) (hsucceeds : state.Succeeds) (i : ι) :
    (state.step kind calls i).Succeeds ↔ Admissible calls state i := by
  have hiff := failed_iff kind (hkeys i ▸ hkey) (hcons.fresh i)
    (fun own hown => hkeys i ▸ hcons.found i own (.inl hown)) (hsucceeds.ok i)
  rw [Admissible, ← hiff]
  constructor
  · intro hafter result hresult
    exact hafter.ok i result (phases_step_self.trans hresult)
  · intro hnext
    refine ⟨?_, ?_⟩
    · intro j result hphase
      by_cases hji : j = i
      · subst hji
        rw [phases_step_self] at hphase
        exact hnext result hphase
      · rw [phases_step_of_ne hji] at hphase
        exact hsucceeds.ok j result hphase
    · intro j k vctx other hvctx hother
      have hstep := hcons.step kind hkey hkeys hdrawn i
      exact hstep.unique vctx other (hstep.found j vctx (.inr hvctx))
        (hstep.found k other (.inr hother))

lemma remaining_run (kind : DatabaseKind) (calls : ι → VctxCall)
    (state : VctxRace ι) (events : List ι) (i : ι) :
    ((run (step kind calls) state events).phases i).remaining ≤
      (state.phases i).remaining - events.count i := by
  induction events generalizing state with
  | nil => simp
  | cons j events ih =>
    refine (ih (state.step kind calls j)).trans ?_
    by_cases hij : i = j
    · subst hij
      rw [phases_step_self, List.count_cons_self]
      have hstep := remaining_step kind (calls i) state.table (state.phases i)
      omega
    · rw [phases_step_of_ne hij, List.count_cons_of_ne (symm hij)]

/-- Calls for one conversation would all have to succeed with one context,
however their statements interleave.  They do exactly in the runs in which every
insertion comes before any other call has inserted the conversation, and no
other conversation has the real context that is written.  A call has at most four
statements. -/
theorem race_free_iff (key : String) {table : ContextTable} (hkey : key ≠ "")
    (hkeys : ∀ i, (calls i).convKey = key)
    (hunique : ∀ vctx other, table.Stands key vctx → table.Stands key other → vctx = other)
    (hfresh : ∀ i, table.lookup (calls i).insertCandidate = none)
    (hdrawn : ∀ i j, (calls i).insertCandidate = (calls j).insertCandidate →
      i = j) (events : List ι) :
    (Throughout (step kind calls) Succeeds (start calls table) events ↔
      EveryStep (step kind calls) (Admissible calls) (start calls table) events) ∧
      ∀ i, 4 ≤ events.count i → ∃ result,
        (run (step kind calls) (start calls table) events).phases i = .done result := by
  have hstart := Consistent.start hkey hkeys hunique hfresh
  constructor
  · apply throughout_iff_of_step (fun state i (hcons : Consistent calls key state) =>
        hcons.step kind hkey hkeys hdrawn i)
      (fun state i hcons hsucceeds =>
        succeeds_step_iff hcons hkey hkeys hdrawn hsucceeds i) hstart
    constructor
    · intro i result hphase
      simp [phases_start hkey hkeys] at hphase
    · intro i j vctx other hphase
      simp [phases_start hkey hkeys] at hphase
  · intro i hcount
    have hremaining := remaining_run kind calls (start calls table) events i
    rw [phases_start hkey hkeys] at hremaining
    have hnone := Nat.sub_eq_zero_of_le hcount
    exact VctxPhase.done_of_remaining (Nat.le_zero.mp (hnone ▸ hremaining))

end VctxRace

/-- Two messages of one peer, each with a real context of its own. -/
def Sample.raceCalls : Fin 2 → VctxCall
  | 0 => ⟨"u", none, "c1", "vctx_1", "vctx_2"⟩
  | 1 => ⟨"u", none, "c2", "vctx_3", "vctx_4"⟩

open Sample

theorem VctxRace.race_free_one_by_one : (run (step .postgres raceCalls)
        (start raceCalls ∅) [0, 0, 1, 0, 1, 0, 1]).table.lookup "vctx_2" =
        some ⟨"c2", some "peer:u"⟩ ∧
      Throughout (step .postgres raceCalls) Succeeds (start raceCalls ∅) [0, 0, 1, 0, 1, 0, 1] := by
  refine ⟨by decide +kernel, ?_⟩
  refine (race_free_iff "peer:u" (by decide) (by decide +kernel) ?_ ?_
    (by decide +kernel) _).1.mpr (by decide +kernel)
  · rintro vctx other ⟨row, hrow, -⟩
    cases hrow
  · intro i
    rfl

/-- Both calls look before either has inserted, so the second insertion is
refused and its call fails. -/
theorem VctxRace.race_loses_call :
    ((run (step .postgres raceCalls) (start raceCalls ∅) [0, 0, 1, 1, 0, 1, 0]).phases 0).result =
        some (.ok "vctx_2") ∧
      ((run (step .postgres raceCalls) (start raceCalls ∅) [0, 0, 1, 1, 0, 1, 0]).phases 1).result =
        some (.error (.database (some "23505") "duplicate key value violates unique constraint")) ∧
      ((run (step .sqlite raceCalls) (start raceCalls ∅) [0, 0, 1, 1, 0, 1, 0]).phases 1).result =
        some (.error (.database (some "2067")
          "UNIQUE constraint failed: context_token_map.peer_user_id")) := by
  refine ⟨by decide +kernel, by decide +kernel, by decide +kernel⟩

end IlinkHub
