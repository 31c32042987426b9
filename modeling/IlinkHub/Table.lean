/-
Tables with the constraint that their schema declares, and updates that replace
one value of a column after another: what all of them together do.
-/
import Mathlib.Data.List.Nodup

universe u v

/-- The rows of a table meet its constraint. -/
structure Table (ρ : Type u) (constraint : List ρ → Prop) where
  rows : List ρ
  valid : constraint rows

namespace Table

variable {ρ : Type u} {κ : Type v}

@[ext]
lemma ext {constraint : List ρ → Prop} {left right : Table ρ constraint}
    (hrows : left.rows = right.rows) : left = right := by
  cases right
  cases hrows
  rfl

/-- A column, or several together, that no two rows agree in. -/
def Keyed (key : ρ → κ) (rows : List ρ) : Prop :=
  (rows.map key).Nodup

instance [DecidableEq κ] (key : ρ → κ) : DecidablePred (Keyed key) :=
  fun rows => inferInstanceAs (Decidable (rows.map key).Nodup)

section Update

variable {constraint : List ρ → Prop} [DecidablePred constraint]

/-- `UPDATE`; `none` stands for rows that the constraint forbids. -/
def update (f : ρ → ρ) (table : Table ρ constraint) : Option (Table ρ constraint) :=
  if hvalid : constraint (table.rows.map f) then
    some ⟨table.rows.map f, hvalid⟩
  else none

lemma update_eq_some_iff {f : ρ → ρ} {table after : Table ρ constraint} :
    table.update f = some after ↔ after.rows = table.rows.map f := by
  unfold update
  split
  · rw [Option.some.injEq]
    exact ⟨fun heq => heq ▸ rfl, fun hrows => ext hrows.symm⟩
  · next hinvalid =>
    constructor
    · exact fun heq => absurd heq.symm (Option.some_ne_none after)
    · exact fun hrows => absurd (hrows ▸ after.valid) hinvalid

end Update

section Modify

variable {key : ρ → κ} {table : Table ρ (Keyed key)}

/-- An update of other columns than the key. -/
def modify (f : ρ → ρ) (hkey : ∀ row, key (f row) = key row)
    (table : Table ρ (Keyed key)) : Table ρ (Keyed key) where
  rows := table.rows.map f
  valid := by
    have hsame : key ∘ f = key := funext hkey
    rw [Keyed, List.map_map, hsame]
    exact table.valid

/-- The row of a key. -/
def find [DecidableEq κ] (k : κ) (table : Table ρ (Keyed key)) : Option ρ :=
  table.rows.find? fun row => key row = k

lemma find_eq_some_iff [DecidableEq κ] {k : κ}
    {row : ρ} : table.find k = some row ↔ row ∈ table.rows ∧ key row = k := by
  have hfound : ∀ row, table.find k = some row → row ∈ table.rows ∧ key row = k := by
    intro row hfind
    have hkey := List.find?_some hfind
    exact ⟨List.mem_of_find?_eq_some hfind, of_decide_eq_true hkey⟩
  constructor
  · exact hfound row
  · rintro ⟨hrow, hk⟩
    cases hfind : table.find k with
    | none =>
      have hnone := List.find?_eq_none.mp hfind row hrow
      exact absurd (decide_eq_true hk) hnone
    | some other =>
      obtain ⟨hother, hkey⟩ := hfound other hfind
      rw [List.inj_on_of_nodup_map table.valid hother hrow (hkey.trans hk.symm)]

lemma find_modify [DecidableEq κ] {f : ρ → ρ} {hkey : ∀ row, key (f row) = key row} (k : κ) :
    (table.modify f hkey).find k = (table.find k).map f := by
  simp only [find, modify, List.find?_map, Function.comp_def, hkey]

end Modify

section Relabel

variable {α : Type u} [DecidableEq α]

/-- `SET column = new WHERE column = old`. -/
def replace (old new x : α) : α :=
  if x = old then new else x

/-- Each of the old values becomes its label. -/
def relabel (label : α → α) (olds : List α) (x : α) : α :=
  if x ∈ olds then label x else x

lemma relabel_nil (label : α → α) : relabel label [] = id := by
  funext x
  exact if_neg List.not_mem_nil

/-- Values may be replaced one after the other if no label is replaced again. -/
lemma relabel_cons {label : α → α} {old : α} {rest : List α} (hfresh : label old ∉ rest) :
    relabel label (old :: rest) = relabel label rest ∘ replace old (label old) := by
  funext x
  by_cases hx : x = old
  · rw [hx, Function.comp_apply, replace, if_pos rfl, relabel, relabel,
      if_pos List.mem_cons_self, if_neg hfresh]
  · rw [Function.comp_apply, replace, if_neg hx, relabel, relabel]
    simp [hx]

end Relabel

end Table
