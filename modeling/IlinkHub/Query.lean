/-
What a statement of a database does to a keyed table: `DELETE ... WHERE` and
`UPDATE ... SET`, the row that `ORDER BY ... LIMIT 1` returns, and the order of
all rows; and what a program does with rows: it cuts them into chunks and
collects them in a map.
-/
import Mathlib.Data.List.AList
import Mathlib.Data.List.Sort

namespace Query

universe u v

variable {α : Type u} {β : Type v}

/-- The rows that meet the condition stay. -/
def retain (p : α → β → Bool) (table : AList fun _ : α => β) : AList fun _ : α => β where
  entries := table.entries.filter fun entry => p entry.1 entry.2
  nodupKeys := table.nodupKeys.sublist List.filter_sublist

/-- Every value is replaced by its image. -/
def mapValues (f : β → β) (table : AList fun _ : α => β) : AList fun _ : α => β where
  entries := table.entries.map (Sigma.map id fun _ => f)
  nodupKeys := List.NodupKeys.map₂ (fun _ => f) _ table.nodupKeys

/-- One of the rows that no row comes before.  The database may return any of
them, so `tie` picks it. -/
def limitOne (le : α → α → Bool) (tie : Nat) (rows : List α) : Option α :=
  let first := rows.filter fun row => rows.all fun other => le row other
  first[tie % first.length]?

section OrderBy
variable {γ : Type v} [LinearOrder γ] {key : α → γ}

/-- `ORDER BY`: the rows in ascending order of a key. -/
def orderBy (key : α → γ) (rows : List α) : List α :=
  rows.insertionSort fun left right => key left ≤ key right

lemma orderBy_perm (key : α → γ) (rows : List α) : (orderBy key rows).Perm rows :=
  List.perm_insertionSort _ rows

lemma pairwise_orderBy (key : α → γ) (rows : List α) :
    (orderBy key rows).Pairwise fun left right => key left ≤ key right :=
  List.pairwise_insertionSort _ rows

/-- Rows with different keys have one order, whatever order they are read in. -/
lemma orderBy_eq_of_perm {rows others : List α}
    (hkey : ∀ left ∈ rows, ∀ right ∈ rows, key left = key right → left = right)
    (hperm : rows.Perm others) : orderBy key rows = orderBy key others := by
  apply List.Perm.eq_of_pairwise _ (pairwise_orderBy key rows) (pairwise_orderBy key others)
    ((orderBy_perm key rows).trans (hperm.trans (orderBy_perm key others).symm))
  intro left right hleft hright hle hge
  apply hkey left ((orderBy_perm key rows).mem_iff.mp hleft) right
  · exact hperm.mem_iff.mpr ((orderBy_perm key others).mem_iff.mp hright)
  · exact le_antisymm hle hge

end OrderBy

variable [DecidableEq α]

variable {table : AList fun _ : α => β} {rows : List α}

lemma lookup_eq_some_iff {key : α} {value : β} :
    table.lookup key = some value ↔ ⟨key, value⟩ ∈ table.entries :=
  AList.mem_lookup_iff

/-- A search that only the row of one key can meet. -/
theorem find?_entries {p : (_ : α) × β → Bool} (key : α)
    (hkey : ∀ row, p row = true → row.1 = key) :
    table.entries.find? p = ((table.lookup key).filter fun value => p ⟨key, value⟩).map
      fun value => ⟨key, value⟩ := by
  cases hfind : table.entries.find? p with
  | none =>
    symm
    rw [Option.map_eq_none_iff, Option.filter_eq_none_iff]
    intro value hvalue
    exact List.find?_eq_none.mp hfind _ (lookup_eq_some_iff.mp hvalue)
  | some row =>
    have hrow := List.find?_some hfind
    obtain rfl := hkey row hrow
    rw [lookup_eq_some_iff.mpr (List.mem_of_find?_eq_some hfind), Option.filter_some, if_pos hrow]
    rfl

lemma lookup_insert (table : AList fun _ => β) (own : α) (value : β) (key : α) :
    (table.insert own value).lookup key =
      if key = own then some value else table.lookup key := by
  split
  · next hkey =>
    subst hkey
    exact AList.lookup_insert table
  · next hkey => exact AList.lookup_insert_ne hkey

lemma lookup_erase (table : AList fun _ => β) (own key : α) :
    (table.erase own).lookup key = if key = own then none else table.lookup key := by
  split
  · next hkey =>
    subst hkey
    exact AList.lookup_erase key table
  · next hkey => exact AList.lookup_erase_ne hkey

lemma length_insert (table : AList fun _ => β) (own : α) (value : β) :
    (table.insert own value).entries.length = (table.erase own).entries.length + 1 :=
  rfl

lemma length_erase_le (table : AList fun _ => β) (own : α) :
    (table.erase own).entries.length ≤ table.entries.length :=
  (List.kerase_sublist own table.entries).length_le

lemma length_erase_of_isSome {own : α} (hown : (table.lookup own).isSome = true) :
    (table.erase own).entries.length + 1 = table.entries.length := by
  have hmem := AList.mem_keys.mp (AList.lookup_isSome.mp hown)
  have hkeys := List.length_erase_add_one hmem
  rw [← AList.keys_erase] at hkeys
  simpa [AList.keys, List.keys] using hkeys

lemma lookup_retain (p : α → β → Bool) (table : AList fun _ => β) (key : α) :
    (retain p table).lookup key = (table.lookup key).filter (p key) := by
  ext value
  rw [lookup_eq_some_iff, Option.filter_eq_some_iff, lookup_eq_some_iff, retain, List.mem_filter]

lemma isSome_lookup_retain {p : α → β → Bool} {key : α} :
    ((retain p table).lookup key).isSome = true ↔
      ∃ value, table.lookup key = some value ∧ p key value = true := by
  simp only [lookup_retain, Option.isSome_iff_exists, Option.filter_eq_some_iff]

lemma lookup_mapValues (f : β → β) (table : AList fun _ => β) (key : α) :
    (mapValues f table).lookup key = (table.lookup key).map f := by
  ext value
  rw [lookup_eq_some_iff, Option.map_eq_some_iff, mapValues, List.mem_map]
  constructor
  · rintro ⟨⟨own, old⟩, hmem, heq⟩
    obtain ⟨rfl, hvalue⟩ := Sigma.mk.inj heq
    exact ⟨old, lookup_eq_some_iff.mpr hmem, eq_of_heq hvalue⟩
  · rintro ⟨old, hold, rfl⟩
    exact ⟨⟨key, old⟩, lookup_eq_some_iff.mp hold, rfl⟩

omit [DecidableEq α] in
/-- The row is one of the table, and it does not come after another one. -/
lemma of_limitOne {le : α → α → Bool} {tie : Nat} {row : α}
    (hrow : limitOne le tie rows = some row) :
    row ∈ rows ∧ ∀ other ∈ rows, le row other = true := by
  have hmem := List.mem_filter.mp (List.mem_of_getElem? hrow)
  exact ⟨hmem.1, List.all_eq_true.mp hmem.2⟩

omit [DecidableEq α] in
/-- Without an order some row is found, if there is one. -/
lemma limitOne_unordered_isSome {row : α} (tie : Nat)
    (hrow : row ∈ rows) : (limitOne (fun _ _ => true) tie rows).isSome = true := by
  have hall : (rows.filter fun _ => rows.all fun _ => true) = rows := by simp
  have hpos := List.length_pos_of_mem hrow
  rw [limitOne, hall, List.getElem?_eq_getElem (Nat.mod_lt tie hpos)]
  rfl

omit [DecidableEq α] in
lemma limitOne_key_isSome {γ : Type v} [LinearOrder γ] (key : α → γ) (tie : Nat)
    (hrows : rows ≠ []) :
    (limitOne (fun left right => decide (key left ≤ key right)) tie rows).isSome = true := by
  have hleast : ∃ row ∈ rows, ∀ other ∈ rows, key row ≤ key other := by
    induction rows with
    | nil => exact absurd rfl hrows
    | cons row rows ih =>
      by_cases hrest : rows = []
      · exact ⟨row, List.mem_cons_self, by simp [hrest]⟩
      · obtain ⟨least, hmem, hle⟩ := ih hrest
        rcases le_total (key row) (key least) with hfirst | hlater
        · refine ⟨row, List.mem_cons_self, List.forall_mem_cons.mpr
            ⟨le_rfl, fun other hother => hfirst.trans (hle other hother)⟩⟩
        · exact ⟨least, List.mem_cons_of_mem row hmem, List.forall_mem_cons.mpr ⟨hlater, hle⟩⟩
  obtain ⟨least, hmem, hle⟩ := hleast
  have hfirst : least ∈ rows.filter fun row =>
      rows.all fun other => decide (key row ≤ key other) := by
    refine List.mem_filter.mpr ⟨hmem, List.all_eq_true.mpr ?_⟩
    exact fun other hother => decide_eq_true (hle other hother)
  rw [limitOne, List.getElem?_eq_getElem (Nat.mod_lt tie (List.length_pos_of_mem hfirst))]
  rfl

omit [DecidableEq α] in
/-- Each row that no row comes before may be the one. -/
lemma exists_limitOne {le : α → α → Bool} {row : α} (hrow : row ∈ rows)
    (hle : ∀ other ∈ rows, le row other = true) : ∃ tie, limitOne le tie rows = some row := by
  have hfirst : row ∈ rows.filter fun row => rows.all fun other =>
      le row other :=
    List.mem_filter.mpr ⟨hrow, List.all_eq_true.mpr hle⟩
  obtain ⟨index, hindex, hget⟩ := List.mem_iff_getElem.mp hfirst
  refine ⟨index, ?_⟩
  rw [limitOne, Nat.mod_eq_of_lt hindex, List.getElem?_eq_getElem hindex, hget]

section Least
variable {γ : Type v} [LinearOrder γ]

/-- The table without a row that comes first in the order of a key. -/
def dropLeast (key : (_ : α) × β → γ) (tie : Nat)
    (table : AList fun _ : α => β) : AList fun _ : α => β :=
  match limitOne (fun left right => decide (key left ≤ key right)) tie table.entries with
  | some least => table.erase least.1
  | none => table

lemma length_dropLeast (key : (_ : α) × β → γ) (tie : Nat)
    {table : AList fun _ : α => β} (hne : table.entries ≠ []) :
    (dropLeast key tie table).entries.length + 1 = table.entries.length := by
  obtain ⟨least, hleast⟩ := Option.isSome_iff_exists.mp (limitOne_key_isSome key tie hne)
  have hmem := (of_limitOne hleast).1
  rw [dropLeast, hleast]
  exact length_erase_of_isSome (Option.isSome_of_eq_some (lookup_eq_some_iff.mpr hmem))

end Least

section Collect

/-- The rows are inserted one after the other. -/
def extend (table : AList fun _ : α => β) (rows : List (α × β)) : AList fun _ : α => β :=
  rows.foldl (fun table row => table.insert row.1 row.2) table

/-- A map of the rows. -/
def collect (rows : List (α × β)) : AList fun _ : α => β :=
  extend ∅ rows

/-- Without a row of the key, the map is what it was there. -/
lemma lookup_extend_of_forall_ne {key : α} {rows : List (α × β)}
    (hnone : ∀ row ∈ rows, row.1 ≠ key) (table : AList fun _ => β) :
    (extend table rows).lookup key = table.lookup key := by
  induction rows generalizing table with
  | nil => rfl
  | cons row rows ih =>
    have hhead := hnone row List.mem_cons_self
    have hrest := fun other hother => hnone other (List.mem_cons_of_mem row hother)
    have hstep := ih hrest (table.insert row.1 row.2)
    rw [lookup_insert, if_neg hhead.symm] at hstep
    exact hstep

/-- Rows of a key that agree leave their value, in whatever order they come. -/
lemma lookup_extend_of_agree {key : α} {value : β} {rows : List (α × β)}
    (hagree : ∀ row ∈ rows, row.1 = key → row.2 = value) (hsome : ∃ row ∈ rows, row.1 = key)
    (table : AList fun _ => β) : (extend table rows).lookup key = some value := by
  induction rows generalizing table with
  | nil =>
    obtain ⟨row, hrow, -⟩ := hsome
    exact absurd hrow List.not_mem_nil
  | cons row rows ih =>
    have hrest := fun other hother => hagree other (List.mem_cons_of_mem row hother)
    by_cases hlater : ∃ other ∈ rows, other.1 = key
    · exact ih hrest hlater (table.insert row.1 row.2)
    · -- The first row is the only one of the key.
      obtain ⟨own, hown, hkey⟩ := hsome
      have hfirst : own = row := by
        rcases List.mem_cons.mp hown with rfl | htail
        · rfl
        · exact absurd ⟨own, htail, hkey⟩ hlater
      have hnone := fun other hother hsame => hlater ⟨other, hother, hsame⟩
      have hvalue := hagree own hown hkey
      rw [hfirst] at hkey hvalue
      have hstep := lookup_extend_of_forall_ne hnone (table.insert row.1 row.2)
      rw [lookup_insert, if_pos hkey.symm] at hstep
      exact hstep.trans (congrArg some hvalue)

end Collect

section Chunks

/-- The rows in pieces of a size, the last one with what is left. -/
def chunks (size : Nat) (rows : List α) : List (List α) :=
  (List.range ((rows.length + size - 1) / size)).map fun index =>
    (rows.drop (index * size)).take size

omit [DecidableEq α] in
lemma mem_iff_mem_chunks {size : Nat} (hpos : 0 < size) {rows : List α}
    {row : α} : row ∈ rows ↔ ∃ chunk ∈ chunks size rows, row ∈ chunk := by
  constructor
  · intro hrow
    obtain ⟨position, hposition, rfl⟩ := List.mem_iff_getElem.mp hrow
    have hsplit := Nat.div_add_mod position size
    have hmod := Nat.mod_lt position hpos
    refine ⟨(rows.drop (position / size * size)).take size, ?_, ?_⟩
    · rw [chunks, List.mem_map]
      refine ⟨position / size, ?_, rfl⟩
      rw [List.mem_range, Nat.lt_iff_add_one_le, Nat.le_div_iff_mul_le hpos,
        Nat.add_mul, Nat.mul_comm]
      omega
    · rw [List.mem_iff_getElem]
      have hlt : position % size < ((rows.drop (position / size * size)).take size).length := by
        rw [List.length_take, List.length_drop, Nat.mul_comm]
        omega
      refine ⟨position % size, hlt, ?_⟩
      rw [List.getElem_take, List.getElem_drop]
      congr 1
      rw [Nat.mul_comm]
      exact hsplit
  · rintro ⟨chunk, hchunk, hrow⟩
    obtain ⟨index, -, rfl⟩ := List.mem_map.mp hchunk
    exact List.mem_of_mem_drop (List.mem_of_mem_take hrow)

end Chunks

end Query
