/-
The retention sweep (`store/retention.rs`, `store/sql.rs`): the cutoffs of the two
databases, the loop of limited deletions and the dry run.  Which rows a limited
statement takes is the database's choice.
-/
import IlinkHub.Calendar
import Mathlib.Data.String.Basic

namespace IlinkHub

open Text LocalTime

inductive RetentionCutoff where
  | text (rendered : String)
  | epoch (secs : Int)
deriving Repr, DecidableEq

/-- What `CURRENT_TIMESTAMP` writes. -/
def dateText (secs : Int) : String :=
  String.ofList (utc secs).dateTime

/-- A time that `chrono` has no date for becomes the empty text. -/
def retentionCutoff : DatabaseKind → Int → RetentionCutoff
  | .sqlite, secs =>
    .text (if -262143 ≤ (utc secs).year ∧ (utc secs).year ≤ 262142 then dateText secs else "")
  | .postgres, secs => .epoch secs

/-- The comparison in the `WHERE` of the selections. -/
def RetentionCutoff.selects : RetentionCutoff → Int → Bool
  | .text rendered, secs => decide (dateText secs < rendered)
  | .epoch cutoff, secs => decide (secs < cutoff)

def cutoffEpochSecs (ttlSecs : UInt64) (nowEpochSecs : Int) : Int :=
  max (nowEpochSecs - min (ttlSecs.toNat : Int) i64Max) (-i64Max - 1)

section Cutoffs

variable {secs cutoff : Int}

lemma dateText_lt_iff (hsecs : (utc secs).InYears) (hcutoff : (utc cutoff).InYears) :
    dateText secs < dateText cutoff ↔ secs < cutoff := by
  rw [String.lt_iff_toList_lt, dateText, dateText, String.toList_ofList, String.toList_ofList,
    dateTime_lt_iff hsecs hcutoff, utc_before_iff]

lemma not_dateText_lt (hsecs : (utc secs).InYears) (hcutoff : ¬ (utc cutoff).InYears) :
    ¬ dateText secs < dateText cutoff := by
  have hdigits : ∀ c rest, fixedDigits 4 (utc secs).year.toNat = c :: rest →
      yearSign (utc cutoff).year < c := by
    intro c rest heq
    have hle := le_toNat_of_mem_fixedDigits (heq ▸ List.mem_cons_self)
    unfold yearSign
    split
    · exact UInt32.lt_iff_toNat_lt.mpr (lt_of_lt_of_le (show '-'.toNat < 48 by decide) hle)
    · exact UInt32.lt_iff_toNat_lt.mpr (lt_of_lt_of_le (show '+'.toNat < 48 by decide) hle)
  have hlength := length_fixedDigits 4 (utc secs).year.toNat
  unfold InYears at hsecs hcutoff
  rw [String.lt_iff_toList_lt, dateText, dateText, String.toList_ofList, String.toList_ofList,
    dateTime, dateTime, yearDigits, yearDigits, if_pos hsecs, if_neg hcutoff]
  cases heq : fixedDigits 4 (utc secs).year.toNat with
  | nil => simp [heq] at hlength
  | cons c rest =>
    have hlt := hdigits c rest heq
    rw [List.cons_append, List.cons_append, List.cons_lt_cons_iff]
    rintro (hgt | ⟨rfl, -⟩)
    · exact lt_asymm hlt hgt
    · exact lt_irrefl _ hlt

/-- The text selects what the number does, up to the year 9999. -/
lemma selects_retentionCutoff_iff {kind : DatabaseKind}
    (hsecs : kind = .sqlite → (utc secs).InYears) :
    (retentionCutoff kind cutoff).selects secs = true ↔
      secs < cutoff ∧ (kind = .sqlite → (utc cutoff).year ≤ 9999) := by
  cases kind with
  | postgres => simp [retentionCutoff, RetentionCutoff.selects]
  | sqlite =>
    have hsecs := hsecs rfl
    simp only [retentionCutoff, RetentionCutoff.selects, decide_eq_true_iff, forall_const]
    by_cases hcutoff : (utc cutoff).InYears
    · rw [if_pos (by unfold InYears at hcutoff; omega), dateText_lt_iff hsecs hcutoff,
        and_iff_left hcutoff.2]
    · have hnot : ¬ (secs < cutoff ∧ (utc cutoff).year ≤ 9999) := by
        rintro ⟨hlt, hle⟩
        have hbefore := utc_before_iff.mpr hlt
        unfold InYears at hsecs hcutoff
        unfold Before at hbefore
        omega
      refine iff_of_false ?_ hnot
      split
      · exact not_dateText_lt hsecs hcutoff
      · exact List.not_lt_nil _

end Cutoffs

/-- In the years 0 to 9999 the rendered times compare as the times do, so that both
kinds of predicate select the same rows. -/
theorem retentionCutoff_agrees {secs cutoff : Int} (hsecs : (utc secs).InYears)
    (hcutoff : (utc cutoff).InYears) :
    (∃ text, retentionCutoff .sqlite cutoff = .text text ∧ (dateText secs < text ↔ secs < cutoff)) ∧
      (retentionCutoff .sqlite cutoff).selects secs =
        (retentionCutoff .postgres cutoff).selects secs := by
  have hyears : -262143 ≤ (utc cutoff).year ∧ (utc cutoff).year ≤ 262142 := by
    unfold InYears at hcutoff
    omega
  refine ⟨⟨dateText cutoff, ?_, dateText_lt_iff hsecs hcutoff⟩, ?_⟩
  · rw [retentionCutoff, if_pos hyears]
  · rw [Bool.eq_iff_iff, selects_retentionCutoff_iff fun _ => hsecs,
      selects_retentionCutoff_iff fun _ => hsecs]
    simp [hcutoff.2]

/-- The last second of a leap day and the first one after it. -/
theorem retentionCutoff_agrees_leap :
    dateText 951868799 = "2000-02-29 23:59:59" ∧ dateText 951868800 = "2000-03-01 00:00:00" ∧
      (retentionCutoff .sqlite 951868800).selects 951868799 =
        (retentionCutoff .postgres 951868800).selects 951868799 :=
  ⟨by decide +kernel, by decide +kernel, (retentionCutoff_agrees (by decide) (by decide)).2⟩

structure StampedRow (κ : Type) where
  key : κ
  time : Int

/-- A swept table.  SQLite dates its rows by texts with four digits for the year, and
both databases number their rows with 64 bits at most. -/
structure SweptTable (kind : DatabaseKind) (κ : Type) where
  rows : List (StampedRow κ)
  unique : (rows.map StampedRow.key).Nodup
  few : rows.length < 2 ^ 64
  dated : kind = .sqlite → ∀ row ∈ rows, (utc row.time).InYears

namespace SweptTable

variable {kind : DatabaseKind} {κ : Type} (table : SweptTable kind κ)

/-- The rows a selection may return. -/
def expired (cutoff : RetentionCutoff) : List (StampedRow κ) :=
  table.rows.filter fun row => cutoff.selects row.time

def older (cutoff : Int) : List (StampedRow κ) :=
  table.rows.filter fun row => decide (row.time < cutoff)

/-- `DELETE … WHERE key IN (…)`. -/
def deleteIn [DecidableEq κ] (keys : List κ) : SweptTable kind κ where
  rows := table.rows.filter fun row => decide (row.key ∉ keys)
  unique := (List.filter_sublist.map _).nodup table.unique
  few := List.length_filter_le _ _ |>.trans_lt table.few
  dated hkind row hrow := table.dated hkind row (List.mem_of_mem_filter hrow)

end SweptTable

/-- The rows that the database takes for the statement with a given number, as many as
there are up to the limit. -/
structure Choice (kind : DatabaseKind) (κ : Type) (limit : Nat) where
  choose : RetentionCutoff → Nat → SweptTable kind κ → List (StampedRow κ)
  sublist : ∀ cutoff i table, (choose cutoff i table).Sublist (table.expired cutoff)
  length_choose : ∀ cutoff i table,
    (choose cutoff i table).length = min (table.expired cutoff).length limit

namespace Choice

variable {kind : DatabaseKind} {κ : Type} {limit : Nat} (choice : Choice kind κ limit)
  (cutoff : RetentionCutoff) (i : Nat) (table : SweptTable kind κ)

lemma subset_rows : choice.choose cutoff i table ⊆ table.rows :=
  ((choice.sublist cutoff i table).trans List.filter_sublist).subset

lemma selects_of_mem {row : StampedRow κ} (hrow : row ∈ choice.choose cutoff i table) :
    cutoff.selects row.time = true :=
  (List.mem_filter.mp ((choice.sublist cutoff i table).subset hrow)).2

lemma mem_choose_iff {row : StampedRow κ} (hrow : row ∈ table.rows) :
    row.key ∈ (choice.choose cutoff i table).map StampedRow.key ↔
      row ∈ choice.choose cutoff i table := by
  constructor
  · intro hkey
    obtain ⟨chosen, hchosen, hkey⟩ := List.mem_map.mp hkey
    have hmem := choice.subset_rows cutoff i table hchosen
    exact List.inj_on_of_nodup_map table.unique hmem hrow hkey ▸ hchosen
  · exact List.mem_map_of_mem

variable [DecidableEq κ]

def delete : SweptTable kind κ :=
  table.deleteIn ((choice.choose cutoff i table).map StampedRow.key)

lemma countP_delete (p : StampedRow κ → Bool) :
    (choice.choose cutoff i table).countP p + (choice.delete cutoff i table).rows.countP p =
      table.rows.countP p := by
  have hrows := table.unique.of_map
  have hchosen := ((choice.sublist cutoff i table).trans List.filter_sublist).nodup hrows
  have hperm : (table.rows.filter fun row =>
      decide (row.key ∈ (choice.choose cutoff i table).map StampedRow.key)).Perm
      (choice.choose cutoff i table) := by
    refine (List.perm_ext_iff_of_nodup (hrows.filter _) hchosen).mpr fun row => ?_
    rw [List.mem_filter, decide_eq_true_iff]
    exact ⟨fun h => (choice.mem_choose_iff cutoff i table h.1).mp h.2,
      fun h => ⟨choice.subset_rows cutoff i table h, List.mem_map_of_mem h⟩⟩
  rw [List.countP_eq_countP_filter_add table.rows p fun row =>
      decide (row.key ∈ (choice.choose cutoff i table).map StampedRow.key), hperm.countP_eq]
  simp only [delete, SweptTable.deleteIn, decide_not]

lemma length_expired_delete :
    ((choice.delete cutoff i table).expired cutoff).length =
      (table.expired cutoff).length - limit := by
  have hcount := choice.countP_delete cutoff i table fun row => cutoff.selects row.time
  have hchosen := List.countP_eq_length.mpr fun _ => choice.selects_of_mem cutoff i table
  have hlength := choice.length_choose cutoff i table
  simp only [SweptTable.expired, ← List.countP_eq_length_filter] at *
  omega

lemma length_delete :
    table.rows.length - (choice.delete cutoff i table).rows.length =
      min (table.expired cutoff).length limit := by
  have hcount := choice.countP_delete cutoff i table fun _ => true
  simp only [List.countP_true, choice.length_choose] at hcount
  omega

lemma filter_delete :
    ((choice.delete cutoff i table).rows.filter fun row => !cutoff.selects row.time) =
      table.rows.filter fun row => !cutoff.selects row.time := by
  rw [delete, SweptTable.deleteIn, List.filter_filter]
  refine List.filter_congr fun row hrow => ?_
  rw [Bool.and_eq_left_iff_imp, decide_eq_true_iff, choice.mem_choose_iff cutoff i table hrow]
  intro hkept hchosen
  simp [choice.selects_of_mem cutoff i table hchosen] at hkept

end Choice

/-- The variables of the loop, with the table and the number of statements so far. -/
structure SweepState (kind : DatabaseKind) (κ : Type) where
  table : SweptTable kind κ
  deleted : UInt64 := 0
  batches : UInt32 := 0
  statements : Nat := 0

section Loop

variable {kind : DatabaseKind} {κ : Type} [DecidableEq κ] {batchSize : UInt64}
  (choice : Choice kind κ batchSize.toNat) (cutoff : RetentionCutoff)

namespace SweepState

variable (state : SweepState kind κ)

def affected : UInt64 :=
  .ofNat (state.table.rows.length - (choice.delete cutoff state.statements state.table).rows.length)

def delete : SweepState kind κ where
  table := choice.delete cutoff state.statements state.table
  deleted := state.deleted + state.affected choice cutoff
  batches := state.batches + 1
  statements := state.statements + 1

lemma affected_lt_iff :
    state.affected choice cutoff < batchSize ↔
      (state.table.expired cutoff).length < batchSize.toNat := by
  have hlt := batchSize.toNat_lt
  rw [affected, choice.length_delete, UInt64.lt_iff_toNat_lt, UInt64.toNat_ofNat_of_lt']
  · omega
  · exact lt_of_le_of_lt (min_le_right _ _) hlt

end SweepState

/-- The loop of `sweep_expired`. -/
def sweepLoop (hpositive : 0 < batchSize) (state : SweepState kind κ) : SweepState kind κ :=
  if state.affected choice cutoff < batchSize then state.delete choice cutoff
  else sweepLoop hpositive (state.delete choice cutoff)
termination_by (state.table.expired cutoff).length
decreasing_by
  have hpositive := UInt64.lt_iff_toNat_lt.mp hpositive
  rename_i hmore
  rw [SweepState.affected_lt_iff] at hmore
  rw [SweepState.delete, choice.length_expired_delete]
  exact Nat.sub_lt (by omega) hpositive

/-- Where the loop ends, by the number of expired rows. -/
structure SweepState.Swept (state after : SweepState kind κ) (batchSize n : Nat) : Prop where
  rows : after.table.rows = state.table.rows.filter fun row => !cutoff.selects row.time
  deleted : after.deleted = state.deleted + .ofNat n
  batches : after.batches = state.batches + .ofNat (n / batchSize + 1)
  statements : after.statements = state.statements + (n / batchSize + 1)

lemma sweepLoop_swept (hpositive : 0 < batchSize) (state : SweepState kind κ) :
    state.Swept cutoff (sweepLoop choice cutoff hpositive state) batchSize.toNat
      (state.table.expired cutoff).length := by
  have hpositive' := UInt64.lt_iff_toNat_lt.mp hpositive
  induction state using sweepLoop.induct choice cutoff hpositive with
  | case1 state hlast =>
    rw [sweepLoop, if_pos hlast]
    rw [SweepState.affected_lt_iff] at hlast
    have hnone := choice.length_expired_delete cutoff state.statements state.table
    rw [Nat.sub_eq_zero_of_le hlast.le, List.length_eq_zero_iff] at hnone
    have hdiv := Nat.div_eq_of_lt hlast
    refine ⟨?_, ?_, ?_, ?_⟩
    · rw [← choice.filter_delete cutoff state.statements, SweepState.delete, eq_comm,
        List.filter_eq_self]
      intro row hrow
      simpa using List.filter_eq_nil_iff.mp hnone row hrow
    · rw [SweepState.delete, SweepState.affected, choice.length_delete, min_eq_left hlast.le]
    · rw [hdiv]
      rfl
    · rw [hdiv]
      rfl
  | case2 state hmore ih =>
    rw [sweepLoop, if_neg hmore]
    rw [SweepState.affected_lt_iff, not_lt] at hmore
    obtain ⟨hrows, hdeleted, hbatches, hstatements⟩ := ih
    have hn := choice.length_expired_delete cutoff state.statements state.table
    have hdiv := Nat.div_eq_sub_div hpositive' hmore
    simp only [SweepState.delete, hn] at hrows hdeleted hbatches hstatements ⊢
    refine ⟨?_, ?_, ?_, ?_⟩
    · rw [hrows, choice.filter_delete]
    · rw [hdeleted, SweepState.affected, choice.length_delete, min_eq_right hmore, UInt64.add_assoc,
        ← UInt64.ofNat_add, Nat.add_sub_cancel' hmore]
    · rw [hbatches, hdiv, UInt32.add_assoc, add_comm (_ + 1) 1, UInt32.ofNat_add 1]
      rfl
    · omega

end Loop

/-- The settings that a sweep reads; `serve` refuses a batch size of 0. -/
structure RetentionConfig where
  dryRun : Bool
  batchSize : UInt64
  messagesTtlSecs : UInt64
  activeSessionsTtlSecs : UInt64
  positive : 0 < batchSize

structure RetentionReport where
  dryRun : Bool
  messagesMatched : UInt64
  messagesDeleted : UInt64
  activeSessionsMatched : UInt64
  activeSessionsDeleted : UInt64
  batches : UInt32
deriving Repr, DecidableEq

structure TableSweep (kind : DatabaseKind) (κ : Type) extends SweepState kind κ where
  matched : UInt64 := 0

structure SweepOutcome (kind : DatabaseKind) where
  messages : TableSweep kind Int
  active : TableSweep kind PairKey
  report : RetentionReport

section Sweep

variable {kind : DatabaseKind} {κ : Type} {now : Int} {ttl : UInt64} {table : SweptTable kind κ}

/-- The statements that a table needs. -/
def neededStatements (batchSize ttlSecs : UInt64) (nowEpochSecs : Int)
    (table : SweptTable kind κ) : Nat :=
  if 0 < ttlSecs then
    (table.older (cutoffEpochSecs ttlSecs nowEpochSecs)).length / batchSize.toNat + 1
  else 0

/-- What the sweep of a table should do and count, with the numbers of the report. -/
structure TableSweep.Exact (batchSize ttlSecs : UInt64) (nowEpochSecs : Int)
    (table : SweptTable kind κ) (after : TableSweep kind κ) (matched deleted : UInt64) : Prop where
  rows : after.table.rows = table.rows.filter fun row =>
    !decide (0 < ttlSecs ∧ row.time < cutoffEpochSecs ttlSecs nowEpochSecs)
  statements : after.statements = neededStatements batchSize ttlSecs nowEpochSecs table
  matched : matched.toNat =
    if 0 < ttlSecs then (table.older (cutoffEpochSecs ttlSecs nowEpochSecs)).length else 0
  deleted : deleted.toNat =
    if 0 < ttlSecs then (table.older (cutoffEpochSecs ttlSecs nowEpochSecs)).length else 0

/-- SQLite compares texts, which is right for cutoffs up to the year 9999. -/
def InReach (ttlSecs : UInt64) (nowEpochSecs : Int) (table : SweptTable kind κ) : Prop :=
  0 < ttlSecs → kind = .sqlite → table.rows = [] ∨
    (utc (cutoffEpochSecs ttlSecs nowEpochSecs)).year ≤ 9999

/-- In reach, both ways to compare agree on every row. -/
lemma expired_eq_older (hreach : InReach ttl now table) (httl : 0 < ttl) :
    table.expired (retentionCutoff kind (cutoffEpochSecs ttl now)) =
      table.older (cutoffEpochSecs ttl now) := by
  refine List.filter_congr fun row hrow => ?_
  rw [Bool.eq_iff_iff, selects_retentionCutoff_iff fun hkind => table.dated hkind row hrow,
    decide_eq_true_iff, and_iff_left_iff_imp]
  intro _ hkind
  rcases hreach httl hkind with hnil | hyear
  · simp [hnil] at hrow
  · exact hyear

variable [DecidableEq κ]

def sweepExpired (cfg : RetentionConfig) (choice : Choice kind κ cfg.batchSize.toNat)
    (cutoff : RetentionCutoff) (table : SweptTable kind κ) : TableSweep kind κ :=
  if cfg.dryRun then
    let matched := UInt64.ofNat (choice.choose cutoff 0 table).length
    if matched = 0 then { table } else { table, matched, batches := 1 }
  else
    let after := sweepLoop choice cutoff cfg.positive { table }
    { after with matched := after.deleted }

/-- One of the two branches of `sweep_retention`. -/
def sweepTable (cfg : RetentionConfig) (nowEpochSecs : Int) (ttlSecs : UInt64)
    (choice : Choice kind κ cfg.batchSize.toNat) (table : SweptTable kind κ) : TableSweep kind κ :=
  if 0 < ttlSecs then
    sweepExpired cfg choice (retentionCutoff kind (cutoffEpochSecs ttlSecs nowEpochSecs)) table
  else { table }

def sweepRetention (cfg : RetentionConfig) (nowEpochSecs : Int)
    (ofMessages : Choice kind Int cfg.batchSize.toNat)
    (ofActive : Choice kind PairKey cfg.batchSize.toNat) (messages : SweptTable kind Int)
    (active : SweptTable kind PairKey) : SweepOutcome kind :=
  let first := sweepTable cfg nowEpochSecs cfg.messagesTtlSecs ofMessages messages
  let second := sweepTable cfg nowEpochSecs cfg.activeSessionsTtlSecs ofActive active
  { messages := first
    active := second
    report := ⟨cfg.dryRun, first.matched, first.deleted, second.matched, second.deleted,
      0 + first.batches + second.batches⟩ }

variable {cfg : RetentionConfig} {choice : Choice kind κ cfg.batchSize.toNat}

lemma sweepTable_swept (hdry : cfg.dryRun = false) (httl : 0 < ttl) :
    SweepState.Swept (retentionCutoff kind (cutoffEpochSecs ttl now)) { table }
      (sweepTable cfg now ttl choice table).toSweepState cfg.batchSize.toNat
        (table.expired (retentionCutoff kind (cutoffEpochSecs ttl now))).length ∧
      (sweepTable cfg now ttl choice table).matched =
        (sweepTable cfg now ttl choice table).deleted := by
  rw [sweepTable, if_pos httl, sweepExpired, if_neg (by simp [hdry])]
  exact ⟨sweepLoop_swept choice _ cfg.positive _, rfl⟩

lemma deleted_sweepTable (hdry : cfg.dryRun = false) :
    (sweepTable cfg now ttl choice table).deleted.toNat = if 0 < ttl then
      (table.expired (retentionCutoff kind (cutoffEpochSecs ttl now))).length else 0 := by
  split
  · next httl =>
    obtain ⟨hswept, -⟩ := @sweepTable_swept _ _ now _ table _ _ choice hdry httl
    have hfew : (table.expired (retentionCutoff kind (cutoffEpochSecs ttl now))).length < 2 ^ 64 :=
      (List.length_filter_le _ _).trans_lt table.few
    rw [hswept.deleted]
    simpa using hfew
  · next httl =>
    rw [sweepTable, if_neg httl]
    rfl

lemma sweepTable_dryRun (hdry : cfg.dryRun = true) :
    (sweepTable cfg now ttl choice table).table = table ∧
      (sweepTable cfg now ttl choice table).statements = 0 ∧
      (sweepTable cfg now ttl choice table).matched.toNat = if 0 < ttl then
        min (table.expired (retentionCutoff kind (cutoffEpochSecs ttl now))).length
          cfg.batchSize.toNat else 0 := by
  unfold sweepTable
  split
  · have hlt : min (table.expired (retentionCutoff kind (cutoffEpochSecs ttl now))).length
        cfg.batchSize.toNat < 2 ^ 64 := (min_le_right _ _).trans_lt cfg.batchSize.toNat_lt
    have hmatched := UInt64.toNat_ofNat_of_lt' hlt
    rw [sweepExpired, if_pos hdry, choice.length_choose]
    dsimp only
    split
    · next hnone =>
      rw [hnone] at hmatched
      exact ⟨rfl, rfl, hmatched⟩
    · exact ⟨rfl, rfl, hmatched⟩
  · exact ⟨rfl, rfl, rfl⟩

lemma batches_sweepTable (hdry : cfg.dryRun = false) :
    (sweepTable cfg now ttl choice table).batches =
      .ofNat (sweepTable cfg now ttl choice table).statements := by
  by_cases httl : 0 < ttl
  · obtain ⟨hswept, -⟩ := @sweepTable_swept _ _ now _ table _ _ choice hdry httl
    rw [hswept.batches, hswept.statements]
    simp
  · rw [sweepTable, if_neg httl]
    rfl

lemma inReach_of_rows (hdry : cfg.dryRun = false)
    (hrows : (sweepTable cfg now ttl choice table).table.rows = table.rows.filter fun row =>
      !decide (0 < ttl ∧ row.time < cutoffEpochSecs ttl now)) : InReach ttl now table := by
  intro httl hkind
  by_contra hnot
  obtain ⟨hne, hyear⟩ := not_or.mp hnot
  obtain ⟨row, hrow⟩ := List.exists_mem_of_ne_nil _ hne
  obtain ⟨hswept, -⟩ := @sweepTable_swept _ _ now _ table _ _ choice hdry httl
  have hdated := table.dated hkind row hrow
  have hkept : row ∈ (sweepTable cfg now ttl choice table).table.rows := by
    rw [hswept.rows, List.mem_filter, Bool.not_eq_true', ← Bool.not_eq_true,
      selects_retentionCutoff_iff fun _ => hdated]
    exact ⟨hrow, fun h => hyear (h.2 hkind)⟩
  have holder : row.time < cutoffEpochSecs ttl now := by
    rw [← utc_before_iff]
    unfold InYears at hdated
    exact .inl (by omega)
  rw [hrows] at hkept
  simp [httl, holder] at hkept

lemma exact_sweepTable_iff (hdry : cfg.dryRun = false) :
    (sweepTable cfg now ttl choice table).Exact cfg.batchSize ttl now table
      (sweepTable cfg now ttl choice table).matched (sweepTable cfg now ttl choice table).deleted ↔
      InReach ttl now table := by
  refine ⟨fun hexact => inReach_of_rows hdry hexact.rows, fun hreach => ?_⟩
  by_cases httl : 0 < ttl
  · obtain ⟨hswept, hmatched⟩ := @sweepTable_swept _ _ now _ table _ _ choice hdry httl
    have holder := expired_eq_older hreach httl
    have hdeleted := @deleted_sweepTable _ _ now ttl table _ _ choice hdry
    rw [holder] at hdeleted
    refine ⟨?_, ?_, ?_, ?_⟩
    · rw [hswept.rows]
      refine List.filter_congr fun row hrow => ?_
      have hsame := congrArg (row ∈ ·) holder
      simp only [SweptTable.expired, SweptTable.older, List.mem_filter, hrow, true_and] at hsame
      rw [Bool.eq_iff_iff, Bool.not_eq_true', ← Bool.not_eq_true, hsame]
      simp [httl]
    · rw [hswept.statements, holder, neededStatements, if_pos httl]
      exact zero_add _
    · rw [hmatched, hdeleted]
    · exact hdeleted
  · rw [sweepTable, if_neg httl]
    exact ⟨by simp [httl], by rw [neededStatements, if_neg httl], by rw [if_neg httl]; rfl,
      by rw [if_neg httl]; rfl⟩

end Sweep

/-- A dry run changes nothing and counts, of the rows that a sweep would delete, those of
a first batch. -/
theorem sweepRetention_dryRun {kind : DatabaseKind} (cfg : RetentionConfig) (now : Int)
    (ofMessages ofMessages' : Choice kind Int cfg.batchSize.toNat)
    (ofActive ofActive' : Choice kind PairKey cfg.batchSize.toNat) (messages : SweptTable kind Int)
    (active : SweptTable kind PairKey) :
    let dry := sweepRetention { cfg with dryRun := true } now ofMessages ofActive messages active
    let real :=
      sweepRetention { cfg with dryRun := false } now ofMessages' ofActive' messages active
    (dry.messages.table = messages ∧ dry.active.table = active) ∧
      (dry.messages.statements = 0 ∧ dry.active.statements = 0) ∧
      dry.report.messagesMatched.toNat = min real.report.messagesDeleted.toNat cfg.batchSize.toNat ∧
      dry.report.activeSessionsMatched.toNat =
        min real.report.activeSessionsDeleted.toNat cfg.batchSize.toNat := by
  intro dry real
  obtain ⟨hmessages, hfirst, hmatched⟩ := @sweepTable_dryRun _ _ now cfg.messagesTtlSecs messages _
    { cfg with dryRun := true } ofMessages rfl
  obtain ⟨hactive, hsecond, hmatched'⟩ := @sweepTable_dryRun _ _ now cfg.activeSessionsTtlSecs
    active _ { cfg with dryRun := true } ofActive rfl
  have hdeleted : real.report.messagesDeleted.toNat = _ := deleted_sweepTable rfl
  have hdeleted' : real.report.activeSessionsDeleted.toNat = _ := deleted_sweepTable rfl
  refine ⟨⟨hmessages, hactive⟩, ⟨hfirst, hsecond⟩, hmatched.trans ?_, hmatched'.trans ?_⟩
  · rw [hdeleted]
    split <;> simp
  · rw [hdeleted']
    split <;> simp

namespace Sample

/-- The database that takes the rows in their order. -/
def inOrder (κ : Type) (limit : Nat) : Choice .postgres κ limit where
  choose cutoff _ table := (table.expired cutoff).take limit
  sublist _ _ _ := List.take_sublist _ _
  length_choose _ _ _ := by rw [List.length_take, min_comm]

/-- Messages with the ids from 0 on, all written in the first second of 1970. -/
def oldMessages (n : Nat) (hfew : n < 2 ^ 64) : SweptTable .postgres Int where
  rows := (List.range n).map fun i : Nat => ⟨(i : Int), 0⟩
  unique := by
    rw [List.map_map]
    exact List.nodup_range.map fun _ _ heq => Int.ofNat.inj heq
  few := by simpa using hfew
  dated hkind := by cases hkind

def noGrants : SweptTable .postgres PairKey :=
  ⟨[], List.nodup_nil, by decide, fun hkind => by cases hkind⟩

/-- One row a statement, and only the messages have a TTL. -/
def oneByOne : RetentionConfig :=
  ⟨false, 1, 1, 0, by decide⟩

lemma length_expired_oldMessages {n : Nat} {hfew : n < 2 ^ 64} :
    ((oldMessages n hfew).expired (.epoch 9)).length = n := by
  rw [SweptTable.expired, List.filter_eq_self.mpr]
  · simp [oldMessages]
  · simp [oldMessages, RetentionCutoff.selects]

lemma statements_oldMessages {n : Nat} {hfew : n < 2 ^ 64} :
    (sweepTable oneByOne 10 1 (inOrder Int 1) (oldMessages n hfew)).statements = n + 1 := by
  obtain ⟨hswept, -⟩ := @sweepTable_swept _ _ 10 1 (oldMessages n hfew) _ oneByOne
    (inOrder Int 1) rfl (by decide)
  have hcutoff : retentionCutoff .postgres (cutoffEpochSecs 1 10) = .epoch 9 := by decide
  rw [hswept.statements, hcutoff, length_expired_oldMessages]
  exact (zero_add _).trans (congrArg (· + 1) (Nat.div_one n))

end Sample

open Sample

/-- Three rows are deleted; the dry run sees the first of them. -/
theorem sweepRetention_dryRun_first :
    (sweepRetention { oneByOne with dryRun := true } 10 (inOrder Int 1) (inOrder PairKey 1)
      (oldMessages 3 (by decide)) noGrants).report.messagesMatched = 1 ∧
    (sweepRetention oneByOne 10 (inOrder Int 1) (inOrder PairKey 1)
      (oldMessages 3 (by decide)) noGrants).report.messagesDeleted = 3 := by
  refine ⟨by decide, UInt64.toNat_inj.mp ?_⟩
  refine (@deleted_sweepTable _ _ 10 1 (oldMessages 3 (by decide)) _ oneByOne
    (inOrder Int 1) rfl).trans ?_
  exact @length_expired_oldMessages 3 (by decide)

end IlinkHub
