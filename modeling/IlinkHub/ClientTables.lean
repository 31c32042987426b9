/-
The tables `clients` and `routing_state` (`store/clients.rs`) with the statements
that the operations on clients run on them, and what each statement leaves under
a name.
-/
import Mathlib.Data.String.Basic
import IlinkHub.HubData

namespace IlinkHub

open Function Query

/-- A row of `clients` without its name and its times.  The column of the
description is empty where none is set. -/
structure ClientRow where
  vtoken : String
  label : Option String := none
  personaName : Option String := none
  personaEmoji : Option String := none
  description : String := ""
deriving Repr, DecidableEq

/-- The description as it is read. -/
def ClientRow.readDescription (row : ClientRow) : Option String :=
  if row.description = "" then none else some row.description

/-- The names are unique, so the clients stand under them. -/
structure ClientTables where
  clients : AList fun _ : String => ClientRow
  routingState : AList fun _ : String => String

namespace ClientTables

def empty : ClientTables :=
  ⟨∅, ∅⟩

variable (tables : ClientTables)

/-- The row of a name that is written again keeps what the statement does not
set. -/
def upserted (vtoken name : String) (label : Option String) : ClientRow :=
  match tables.clients.lookup name with
  | some row => { row with vtoken := vtoken, label := label.or row.label }
  | none => { vtoken := vtoken, label := label }

/-- One transaction: the routes of the token that the client had follow it to the
new one.  `none` is a token that is the key of another row. -/
def upsertClient (vtoken name : String) (label : Option String) : Option ClientTables :=
  if tables.clients.entries.all fun row =>
      row.1 = name ∨ row.2.vtoken ≠ vtoken then
    some
      { routingState :=
          match tables.clients.lookup name with
          | some row => mapValues
              (fun own => if own = row.vtoken then vtoken else own)
              tables.routingState
          | none => tables.routingState
        clients :=
          tables.clients.insert name (tables.upserted vtoken name label) }
  else none

/-- A new name and label for the row of the token; `none` is a name that is
taken. -/
def updateClientByVtoken (vtoken name : String) (label : Option String) : Option ClientTables :=
  match tables.clients.entries.find? fun row => row.2.vtoken = vtoken with
  | none => some tables
  | some row =>
    if row.1 ≠ name ∧ (tables.clients.lookup name).isSome then none
    else some { tables with
      clients := (tables.clients.erase row.1).insert name
        { row.2 with label := label.or row.2.label } }

/-- An update of the row of the token in place. -/
def updateRow (vtoken : String) (f : ClientRow → ClientRow) : ClientTables :=
  { tables with
    clients := mapValues
      (fun row => if row.vtoken = vtoken then f row else row) tables.clients }

/-- Both columns are overwritten. -/
def updateClientPersona (vtoken : String)
    (personaName personaEmoji : Option String) : ClientTables :=
  tables.updateRow vtoken fun row =>
    { row with personaName := personaName, personaEmoji := personaEmoji }

def updateClientDescription (vtoken description : String) : ClientTables :=
  tables.updateRow vtoken fun row => { row with description := description }

def deleteClientByName (name : String) : ClientTables :=
  { tables with clients := tables.clients.erase name }

def clearRoutesForVtoken (vtoken : String) : ClientTables :=
  { tables with
    routingState := retain (fun _ own => own ≠ vtoken) tables.routingState }

def setRoute (fromUser vtoken : String) : ClientTables :=
  { tables with routingState := tables.routingState.insert fromUser vtoken }

def getRoute (fromUser : String) : Option String :=
  tables.routingState.lookup fromUser

/-- The row of a name. -/
def row (name : String) : Option ClientRow :=
  tables.clients.lookup name

/-- The names with their rows, in the order of the names. -/
def listClients : List (Σ _ : String, ClientRow) :=
  orderBy (fun row => row.1) tables.clients.entries

def listRoutes : List (Σ _ : String, String) :=
  tables.routingState.entries

variable {tables} {vtoken name other : String} {label : Option String} {f : ClientRow → ClientRow}

lemma mem_listClients_iff {row : Σ _, ClientRow} :
    row ∈ tables.listClients ↔ tables.clients.lookup row.1 = some row.2 := by
  rw [listClients, (orderBy_perm _ _).mem_iff, lookup_eq_some_iff]

/-- No other client has the token. -/
def Unused (tables : ClientTables) (vtoken name : String) : Prop :=
  ∀ other row, tables.clients.lookup other = some row → row.vtoken = vtoken → other = name

/-- Every token is the key of one row. -/
def Distinct (tables : ClientTables) : Prop :=
  ∀ name row, tables.row name = some row → tables.Unused row.vtoken name

lemma all_entries_iff :
    (tables.clients.entries.all fun row => row.1 = name ∨ row.2.vtoken ≠ vtoken) = true ↔
      tables.Unused vtoken name := by
  simp only [List.all_eq_true, decide_eq_true_iff]
  constructor
  · intro hall other row hrow hvtoken
    exact (hall ⟨other, row⟩ (lookup_eq_some_iff.mp hrow)).resolve_right
      fun hne => hne hvtoken
  · rintro hunused ⟨other, row⟩ hrow
    by_cases hvtoken : row.vtoken = vtoken
    · exact .inl (hunused other row (lookup_eq_some_iff.mpr hrow) hvtoken)
    · exact .inr hvtoken

lemma upsertClient_eq_some_iff {after : ClientTables} :
    tables.upsertClient vtoken name label = some after ↔ tables.Unused vtoken name ∧ after =
          { routingState :=
              match tables.clients.lookup name with
              | some row => mapValues
                  (fun own => if own = row.vtoken then vtoken else own)
                  tables.routingState
              | none => tables.routingState
            clients :=
              tables.clients.insert name (tables.upserted vtoken name label) } := by
  rw [upsertClient]
  split
  · next hall => simp [all_entries_iff.mp hall, eq_comm]
  · next hall => simp [mt all_entries_iff.mpr hall]

variable {row : ClientRow} {routingState : AList fun _ => String} {table : AList fun _ => ClientRow}

/-- The row of a token is found if the token has only one. -/
theorem find?_eq_some_of_unused (hrow : tables.clients.lookup name = some row)
    (hunused : tables.Unused row.vtoken name) :
    (tables.clients.entries.find? fun own => own.2.vtoken = row.vtoken) = some ⟨name, row⟩ := by
  have hmem := lookup_eq_some_iff.mp hrow
  cases hfind : tables.clients.entries.find? fun own => own.2.vtoken = row.vtoken with
  | none =>
    have hnone := List.find?_eq_none.mp hfind _ hmem
    exact absurd (decide_eq_true rfl) hnone
  | some own =>
    obtain ⟨other, found⟩ := own
    have hother := lookup_eq_some_iff.mpr (List.mem_of_find?_eq_some hfind)
    have hvtoken := List.find?_some hfind
    have hname := hunused other found hother (of_decide_eq_true hvtoken)
    subst hname
    rw [hrow] at hother
    rw [Option.some.inj hother]

lemma row_insert :
    (mk (table.insert name row) routingState).row =
      update (mk table routingState).row name (some row) := by
  funext other
  rw [ClientTables.row, lookup_insert, update_apply]
  rfl

lemma row_erase :
    (mk (table.erase name) routingState).row = update (mk table routingState).row name none := by
  funext other
  rw [row, lookup_erase, update_apply]
  rfl

lemma updateClientByVtoken_of_free {newName : String}
    (label : Option String) (hrow : tables.row name = some row)
    (hunused : tables.Unused row.vtoken name) (hfree : newName = name ∨ tables.row newName = none) :
    ∃ after, tables.updateClientByVtoken row.vtoken newName label = some after ∧ after.row =
        update (update tables.row name none) newName
          (some { row with label := label.or row.label }) ∧
      after.routingState = tables.routingState := by
  have hno : ¬ (name ≠ newName ∧ (tables.clients.lookup newName).isSome = true) := by
    rintro ⟨hother, htaken⟩
    rcases hfree with hsame | hnone
    · exact hother hsame.symm
    · rw [← ClientTables.row, hnone] at htaken
      cases htaken
  have hafter : tables.updateClientByVtoken row.vtoken newName label = some { tables with
        clients := (tables.clients.erase name).insert newName
          { row with label := label.or row.label } } := by
    rw [updateClientByVtoken, find?_eq_some_of_unused hrow hunused]
    exact if_neg hno
  refine ⟨_, hafter, ?_, rfl⟩
  rw [row_insert, row_erase]

end ClientTables

end IlinkHub
