/-
`find_or_create_vctx` (`store/context.rs`) as the statements that it runs on
`context_token_map`.  Each statement is atomic; between two of them the
statements of other calls can run.
-/
import IlinkHub.Quote

namespace IlinkHub

/-- A database error with its code and message, or a query without the row that
it must return. -/
inductive SqlxError where
  | database (code : Option String) (message : String)
  | rowNotFound
deriving Repr, DecidableEq

def isMissingConstraintError : SqlxError → Bool
  | .database code message =>
    decide (code = some "42P10" ∨ code = some "42704") ||
      Text.contains "conflict clause does not match" (Text.toAsciiLowercase message)
  | .rowNotFound => false

inductive ContextColumn where
  | vctx
  | realCtx
  | peerUserId
deriving Repr, DecidableEq

def ContextColumn.sqlName : ContextColumn → String
  | .vctx => "vctx"
  | .realCtx => "real_ctx"
  | .peerUserId => "peer_user_id"

/-- A unique index; one that is partial has only the rows with
`peer_user_id != ''`. -/
structure UniqueIndex where
  column : ContextColumn
  isPartial : Bool
deriving Repr, DecidableEq

/-- The primary key and the indexes of the versions 3 and 7 of the schema. -/
def contextIndexes : List UniqueIndex :=
  [⟨.vctx, false⟩, ⟨.realCtx, false⟩, ⟨.peerUserId, true⟩]

namespace DatabaseKind

/-- No index fits the target of an `ON CONFLICT`. -/
def missingConstraint : DatabaseKind → SqlxError
  | .sqlite => .database (some "1")
      "ON CONFLICT clause does not match any PRIMARY KEY or UNIQUE constraint"
  | .postgres => .database (some "42P10")
      "there is no unique or exclusion constraint matching the ON CONFLICT specification"

def uniqueViolation (kind : DatabaseKind) (column : ContextColumn) : SqlxError :=
  match kind with
  | .sqlite => .database (some "2067")
      ("UNIQUE constraint failed: context_token_map." ++ column.sqlName)
  | .postgres => .database (some "23505")
      "duplicate key value violates unique constraint"

lemma isMissingConstraintError_missingConstraint (kind : DatabaseKind) :
    isMissingConstraintError kind.missingConstraint = true := by
  cases kind <;> decide +kernel

end DatabaseKind

def ContextColumn.value (vctx : String) (row : ContextRow) :
    ContextColumn → Option String
  | .vctx => some vctx
  | .realCtx => some row.realCtx
  | .peerUserId => row.peerUserId

namespace UniqueIndex

variable (index : UniqueIndex)

def covers (row : ContextRow) : Bool :=
  !index.isPartial || row.peerUserId ≠ some ""

/-- The index does not let the two rows stand side by side. -/
def clash (vctx : String) (row : ContextRow) (entry : Σ _ : String, ContextRow) : Bool :=
  index.covers row && index.covers entry.2 &&
    index.column.value entry.1 entry.2 = index.column.value vctx row

end UniqueIndex

abbrev ContextTable :=
  AList fun _ : String => ContextRow

/-- `DO NOTHING`, and `DO UPDATE SET real_ctx = EXCLUDED.real_ctx`. -/
inductive OnConflict where
  | doNothing
  | updateRealCtx
deriving Repr, DecidableEq

namespace ContextTable

variable (kind : DatabaseKind) (table : ContextTable)

/-- `SELECT vctx ... WHERE peer_user_id = $1 LIMIT 1`. -/
def selectByPeer (key : String) : Option String :=
  (table.entries.find? fun entry => entry.2.peerUserId = some key).map fun entry => entry.1

/-- Some row has the real context. -/
def hasRealCtx (realCtx : String) : Bool :=
  table.entries.any fun entry => entry.2.realCtx = realCtx

/-- Some row has the key; the empty one is not in the index. -/
def hasPeer (peerUserId : Option String) : Bool :=
  peerUserId ≠ some "" && table.entries.any fun entry => entry.2.peerUserId = peerUserId

/-- `UPDATE ... SET real_ctx = $1 WHERE vctx = $2`. -/
def updateRealCtx (realCtx vctx : String) : Except SqlxError ContextTable :=
  match table.lookup vctx with
  | some row =>
    if hasRealCtx (table.erase vctx) realCtx then
      .error (kind.uniqueViolation .realCtx)
    else .ok (table.insert vctx { row with realCtx := realCtx })
  | none => .ok table

/-- `INSERT ... ON CONFLICT (target)`.  A partial index does not fit a target
without a `WHERE`.  The result has the `vctx` of the row that was written. -/
def insertInto (vctx : String) (row : ContextRow) (target : ContextColumn)
    (action : OnConflict) : Except SqlxError (Option String × ContextTable) :=
  match contextIndexes.find? fun index =>
      index.column = target ∧ index.isPartial = false with
  | none => .error kind.missingConstraint
  | some arbiter =>
    match table.entries.find? (arbiter.clash vctx row) with
    | some old =>
      match action with
      | .doNothing => .ok (none, table)
      | .updateRealCtx =>
        (table.updateRealCtx kind row.realCtx old.1).map fun after => (some old.1, after)
    | none =>
      match contextIndexes.find? fun index =>
          table.entries.any (index.clash vctx row) with
      | some index => .error (kind.uniqueViolation index.column)
      | none => .ok (some vctx, table.insert vctx row)

end ContextTable

open ContextTable

/-- One call with the names that it draws. -/
structure VctxCall where
  peerUserId : String
  groupId : Option String := none
  realCtx : String
  upsertCandidate : String
  insertCandidate : String
deriving Repr, DecidableEq

/-- The statement that comes next. -/
inductive VctxPhase where
  | upsert
  | select
  | update (vctx : String)
  | insert
  | reselect
  | done (result : Except SqlxError String)

def VctxPhase.result : VctxPhase → Option (Except SqlxError String)
  | .done result => some result
  | _ => none

namespace VctxCall

variable (kind : DatabaseKind) (call : VctxCall)

def convKey : String :=
  Store.convKey call.peerUserId call.groupId

def row : ContextRow :=
  ⟨call.realCtx, some call.convKey⟩

/-- Without a key there is nothing to look up. -/
def start : VctxPhase :=
  if call.convKey = "" then .insert else .upsert

def step (table : ContextTable) : VctxPhase → ContextTable × VctxPhase
  | .upsert =>
    match table.insertInto kind call.upsertCandidate call.row .peerUserId .updateRealCtx with
    | .ok (some vctx, after) => (after, .done (.ok vctx))
    | .ok (none, after) => (after, .done (.error .rowNotFound))
    | .error error =>
      (table, if isMissingConstraintError error then .select
        else .done (.error error))
  | .select =>
    (table, match table.selectByPeer call.convKey with
      | some vctx => .update vctx
      | none => .insert)
  | .update vctx =>
    match table.updateRealCtx kind call.realCtx vctx with
    | .ok after => (after, .done (.ok vctx))
    | .error error => (table, .done (.error error))
  | .insert =>
    match table.insertInto kind call.insertCandidate call.row .vctx .doNothing with
    | .ok (_, after) => (after, .reselect)
    | .error error => (table, .done (.error error))
  | .reselect =>
    let found :=
      if call.convKey = "" then
        (table.lookup call.insertCandidate).map fun _ => call.insertCandidate
      else table.selectByPeer call.convKey
    (table, .done (.ok (found.getD call.insertCandidate)))
  | .done result => (table, .done result)

def advance (state : ContextTable × VctxPhase) : ContextTable × VctxPhase :=
  call.step kind state.1 state.2

/-- The call with nobody in between; it has at most four statements. -/
def alone (table : ContextTable) : ContextTable × VctxPhase :=
  Nat.iterate (call.advance kind) 4 (table, call.start)

end VctxCall

namespace ContextTable

variable {kind : DatabaseKind} {table : ContextTable} {vctx : String} {row : ContextRow}

/-- The index of version 7 is partial. -/
lemma insertInto_peerUserId (action : OnConflict) :
    table.insertInto kind vctx row .peerUserId action = .error kind.missingConstraint :=
  rfl

lemma any_clash_vctx :
    table.entries.any (UniqueIndex.clash ⟨.vctx, false⟩ vctx row) = (table.lookup vctx).isSome := by
  rw [Bool.eq_iff_iff, AList.lookup_isSome, AList.mem_keys, AList.keys, List.keys]
  simp [UniqueIndex.clash, UniqueIndex.covers, ContextColumn.value]

lemma any_clash_realCtx : table.entries.any (UniqueIndex.clash ⟨.realCtx, false⟩ vctx row) =
      table.hasRealCtx row.realCtx := by
  congr 1
  funext entry
  simp [UniqueIndex.clash, UniqueIndex.covers, ContextColumn.value]

lemma any_clash_peerUserId : table.entries.any (UniqueIndex.clash ⟨.peerUserId, true⟩ vctx row) =
      table.hasPeer row.peerUserId := by
  rw [Bool.eq_iff_iff, hasPeer, Bool.and_eq_true, List.any_eq_true, List.any_eq_true]
  simp only [UniqueIndex.clash, UniqueIndex.covers, ContextColumn.value,
    Bool.not_true, Bool.false_or, Bool.and_eq_true, decide_eq_true_eq]
  constructor
  · rintro ⟨entry, hentry, ⟨hrow, -⟩, hsame⟩
    exact ⟨hrow, entry, hentry, of_decide_eq_true hsame⟩
  · rintro ⟨hrow, entry, hentry, hsame⟩
    exact ⟨entry, hentry, ⟨hrow, hsame ▸ hrow⟩, decide_eq_true hsame⟩

lemma hasRealCtx_eq_false_iff {realCtx : String} :
    table.hasRealCtx realCtx = false ↔
      ∀ vctx row, table.lookup vctx = some row → row.realCtx ≠ realCtx := by
  simp only [hasRealCtx, List.any_eq_false, decide_eq_true_eq, Query.lookup_eq_some_iff]
  constructor
  · intro hall vctx row hentry
    exact hall ⟨vctx, row⟩ hentry
  · rintro hall ⟨vctx, row⟩ hentry
    exact hall vctx row hentry

variable {key : String}

lemma selectByPeer_eq_none_iff :
    table.selectByPeer key = none ↔ ∀ vctx row, table.lookup vctx = some row →
        row.peerUserId ≠ some key := by
  simp only [selectByPeer, Option.map_eq_none_iff, List.find?_eq_none,
    decide_eq_true_eq, Query.lookup_eq_some_iff]
  constructor
  · intro hall vctx row hentry
    exact hall ⟨vctx, row⟩ hentry
  · rintro hall ⟨vctx, row⟩ hentry
    exact hall vctx row hentry

lemma of_selectByPeer (hfound : table.selectByPeer key = some vctx) :
    ∃ row, table.lookup vctx = some row ∧ row.peerUserId = some key := by
  obtain ⟨⟨own, row⟩, hfind, rfl⟩ := Option.map_eq_some_iff.mp hfound
  refine ⟨row, Query.lookup_eq_some_iff.mpr (List.mem_of_find?_eq_some hfind), ?_⟩
  simpa using List.find?_some hfind

lemma hasPeer_eq_false_iff :
    table.hasPeer (some key) = false ↔ key = "" ∨ table.selectByPeer key = none := by
  rw [hasPeer, Bool.and_eq_false_iff, decide_eq_false_iff_not, not_not,
    Option.some.injEq, selectByPeer, Option.map_eq_none_iff,
    List.find?_eq_none, List.any_eq_false]

lemma selectByPeer_insert (hkey : row.peerUserId = some key) :
    selectByPeer (table.insert vctx row) key = some vctx := by
  have hentries : (table.insert vctx row).entries = ⟨vctx, row⟩ :: (table.erase vctx).entries :=
    rfl
  rw [selectByPeer, hentries, List.find?_cons_of_pos (by simpa using hkey)]
  rfl

lemma insertInto_vctx (action : OnConflict) : table.insertInto kind vctx row .vctx action =
      match table.entries.find? (UniqueIndex.clash ⟨.vctx, false⟩ vctx row) with
      | some old =>
        match action with
        | .doNothing => .ok (none, table)
        | .updateRealCtx =>
          (table.updateRealCtx kind row.realCtx old.1).map fun after => (some old.1, after)
      | none =>
        match contextIndexes.find? fun index =>
            table.entries.any (index.clash vctx row) with
        | some index => .error (kind.uniqueViolation index.column)
        | none => .ok (some vctx, table.insert vctx row) :=
  rfl

/-- A row with a new name is refused by one of the other two indexes, or it is
written. -/
lemma insertInto_vctx_of_none (hnone : table.lookup vctx = none) :
    table.insertInto kind vctx row .vctx .doNothing =
      if table.hasRealCtx row.realCtx then
        .error (kind.uniqueViolation .realCtx)
      else if table.hasPeer row.peerUserId then
        .error (kind.uniqueViolation .peerUserId)
      else .ok (some vctx, table.insert vctx row) := by
  have hclash : table.entries.any (UniqueIndex.clash ⟨.vctx, false⟩ vctx row) =
      false := by
    rw [any_clash_vctx, hnone]
    rfl
  have hfind : table.entries.find? (UniqueIndex.clash ⟨.vctx, false⟩ vctx row) =
      none := by
    rw [List.find?_eq_none]
    exact fun entry hentry => by simpa using List.any_eq_false.mp hclash entry hentry
  rw [insertInto_vctx, hfind]
  simp only [contextIndexes, List.find?_cons, hclash, any_clash_realCtx, any_clash_peerUserId]
  cases table.hasRealCtx row.realCtx with
  | true => rfl
  | false =>
    cases table.hasPeer row.peerUserId with
    | true => rfl
    | false => rfl

end ContextTable

namespace VctxCall

variable {kind : DatabaseKind} {call : VctxCall} {table : ContextTable}

/-- The upsert never finds its index, so every call goes on to the lookup. -/
lemma step_upsert : call.step kind table .upsert = (table, .select) := by
  simp [step, insertInto_peerUserId, DatabaseKind.isMissingConstraintError_missingConstraint]

lemma alone_eq_advance :
    call.alone kind table = call.advance kind (call.advance kind
      (call.advance kind (call.advance kind (table, call.start)))) := rfl

lemma alone_of_update {vctx : String} (hkey : call.convKey ≠ "")
    (hfound : table.selectByPeer call.convKey = some vctx) :
    call.alone kind table = match table.updateRealCtx kind call.realCtx vctx with
      | .ok after => (after, .done (.ok vctx))
      | .error error => (table, .done (.error error)) := by
  simp only [alone_eq_advance, start, hkey, if_false, advance, step_upsert]
  simp only [step, hfound]
  cases table.updateRealCtx kind call.realCtx vctx with
  | ok after => rfl
  | error error => rfl

lemma alone_of_insert (hnone : call.convKey = "" ∨ table.selectByPeer call.convKey = none) :
    call.alone kind table =
      match table.insertInto kind call.insertCandidate call.row .vctx .doNothing with
      | .ok (_, after) => call.step kind after .reselect
      | .error error => (table, .done (.error error)) := by
  by_cases hkey : call.convKey = ""
  · simp only [alone_eq_advance, start, hkey, if_true, advance]
    simp only [step]
    cases table.insertInto kind call.insertCandidate call.row .vctx .doNothing with
    | ok after => rfl
    | error error => rfl
  · have hselect := hnone.resolve_left hkey
    simp only [alone_eq_advance, start, hkey, if_false, advance, step_upsert]
    simp only [step, hselect]
    cases table.insertInto kind call.insertCandidate call.row .vctx .doNothing with
    | ok after => rfl
    | error error => rfl

lemma row_peerUserId (call : VctxCall) : call.row.peerUserId = some call.convKey :=
  rfl

lemma step_reselect_insert :
    call.step kind (table.insert call.insertCandidate call.row) .reselect =
      (table.insert call.insertCandidate call.row, .done (.ok call.insertCandidate)) := by
  by_cases hkey : call.convKey = ""
  · simp [step, hkey]
  · simp [step, selectByPeer_insert call.row_peerUserId]

end VctxCall

end IlinkHub
