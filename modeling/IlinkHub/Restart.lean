/-
The start of the Hub with the tables that an earlier run has left
(`load_clients_from_db` in `runtime/serve.rs`), and what it rebuilds from them:
the clients, the default and the routes of the users.
-/
import IlinkHub.ClientTables
import IlinkHub.RegistryOps

namespace IlinkHub

open ClientRegistry ClientInfo

def defaultPersonaEmoji : String :=
  "🤖"

namespace ClientRow

variable (row : ClientRow)

def hasPersona : Bool :=
  row.personaName.isSome || row.personaEmoji.isSome

/-- The persona of the row; a client that has none gets its name and an
emoji. -/
def loadedPersona (name : String) : Option String × Option String :=
  if row.hasPersona then (row.personaName, row.personaEmoji)
  else (some name, some defaultPersonaEmoji)

/-- The client that is built from the row. -/
def loaded (name : String) : ClientInfo where
  name := name
  vtoken := row.vtoken
  label := row.label
  description := row.readDescription
  personaName := (row.loadedPersona name).1
  personaEmoji := (row.loadedPersona name).2

variable {row} {name : String}

end ClientRow

/-- Which of its statements the store answers. -/
structure LoadAnswers where
  listClients : Bool := true
  backFill : String → Bool := fun _ => true
  getRoute : Bool := true
  setRoute : Bool := true
  listRoutes : Bool := true

/-- What is in memory and in the tables when the Hub starts. -/
structure Startup where
  registry : ClientRegistry
  router : Router
  tables : ClientTables

/-- One row goes into the registry: the client, then its persona and its
description. -/
def ClientRegistry.loadClient (registry : ClientRegistry)
    (entry : Σ _ : String, ClientRow) : ClientRegistry :=
  let row := entry.2
  let registered := (registry.registerWithVtoken entry.1 row.label none (some row.vtoken) "").2.2
  let persona := row.loadedPersona entry.1
  (registered.updateMetadata row.vtoken none none persona.1
    persona.2).setDescription row.vtoken row.readDescription

/-- A persona that is missing is written into the table as well. -/
def ClientTables.backFill (answers : String → Bool) (tables : ClientTables)
    (entry : Σ _ : String, ClientRow) : ClientTables :=
  if entry.2.hasPersona then tables
  else if answers entry.2.vtoken then
    tables.updateClientPersona entry.2.vtoken (some entry.1) (some defaultPersonaEmoji)
  else tables

/-- A route of a user counts if its client is known.  The row of the default is
no route. -/
def Router.loadRoute (known : List String) (router : Router)
    (route : Σ _ : String, String) : Router :=
  if route.1 = hubDefaultSentinel then router
  else if route.2 ∈ known then router.setRoute route.1 route.2
  else router

namespace Startup

variable (answers : LoadAnswers) (startup : Startup)

/-- The clients, and the default: the one that was written down, else the first
client, which is then written down. -/
def loadClients : Startup :=
  let rows := startup.tables.listClients
  let registry := rows.foldl loadClient startup.registry
  let tables := rows.foldl (ClientTables.backFill answers.backFill) startup.tables
  let persisted :=
    if answers.getRoute then tables.getRoute hubDefaultSentinel else none
  match persisted.or (rows.head?.map fun entry => entry.2.vtoken) with
  | some vtoken =>
    { registry := registry
      router := startup.router.setDefault vtoken
      tables :=
        if answers.setRoute then tables.setRoute hubDefaultSentinel vtoken
        else tables }
  | none => { startup with registry := registry, tables := tables }

def loadRoutes : Startup :=
  { startup with
    router := startup.tables.listRoutes.foldl
      (Router.loadRoute (startup.registry.values.map vtoken)) startup.router }

end Startup

def loadClientsFromDb (answers : LoadAnswers) (tables : ClientTables) : Startup :=
  let start : Startup := ⟨.empty, .new none, tables⟩
  let loaded := if answers.listClients then start.loadClients answers else start
  if answers.listRoutes then loaded.loadRoutes else loaded

namespace ClientRegistry

variable {registry : ClientRegistry} {name vtoken : String} {rows : List (Σ _, ClientRow)}

/-- A row with a new name becomes the client that it describes. -/
lemma lookup_loadClient {entry : Σ _, ClientRow} (hnew : registry.byName.lookup entry.1 = none) :
    (∀ name, (registry.loadClient entry).byName.lookup name =
      if name = entry.1 then some entry.2.vtoken
      else registry.byName.lookup name) ∧
      ∀ vtoken, (registry.loadClient entry).byVtoken.lookup vtoken =
        if vtoken = entry.2.vtoken then some (entry.2.loaded entry.1)
        else registry.byVtoken.lookup vtoken := by
  obtain ⟨own, row⟩ := entry
  have hregistered : (registry.registerWithVtoken own row.label none (some row.vtoken) "").2.2 =
        registry.store (.withHashedVtoken own row.label none row.vtoken) := by
    rw [registerWithVtoken, hnew]
    rfl
  simp only [loadClient, hregistered]
  constructor
  · intro name
    rw [setDescription, updateMetadata, byName_modify, byName_modify, store, Query.lookup_insert]
    rfl
  · intro vtoken
    rw [setDescription, updateMetadata, lookup_modify, lookup_modify, lookup_modify, store]
    by_cases hvtoken : vtoken = row.vtoken
    · simp [hvtoken, withHashedVtoken, ClientRow.loaded]
    · simp [hvtoken, withHashedVtoken]

/-- Two rows of different clients. -/
def Apart (left right : Σ _ : String, ClientRow) : Prop :=
  left.1 ≠ right.1 ∧ left.2.vtoken ≠ right.2.vtoken

lemma loadClient_free {first : Σ _, ClientRow} {rest : List (Σ _, ClientRow)}
    (hfirst : ∀ entry ∈ rest, Apart first entry)
    (hnew : ∀ entry ∈ first :: rest, registry.byName.lookup entry.1 = none) :
    ∀ entry ∈ rest, (registry.loadClient first).byName.lookup entry.1 = none := by
  intro entry hentry
  rw [(lookup_loadClient (hnew first List.mem_cons_self)).1, if_neg (hfirst entry hentry).1.symm]
  exact hnew entry (List.mem_cons_of_mem _ hentry)

lemma frame_foldl_loadClient (hrows : rows.Pairwise Apart)
    (hnew : ∀ entry ∈ rows, registry.byName.lookup entry.1 = none) :
    (∀ name, (∀ entry ∈ rows, entry.1 ≠ name) →
      (rows.foldl loadClient registry).byName.lookup name = registry.byName.lookup name) ∧
      ∀ vtoken, (∀ entry ∈ rows, entry.2.vtoken ≠ vtoken) →
        (rows.foldl loadClient registry).byVtoken.lookup vtoken =
          registry.byVtoken.lookup vtoken := by
  induction rows generalizing registry with
  | nil => simp
  | cons first rest ih =>
    obtain ⟨hfirst, hrest⟩ := List.pairwise_cons.mp hrows
    obtain ⟨hbyName, hbyVtoken⟩ :=
      lookup_loadClient (hnew first List.mem_cons_self)
    obtain ⟨hname, hvtoken⟩ := ih hrest (loadClient_free hfirst hnew)
    constructor
    · intro name hall
      obtain ⟨hown, hothers⟩ := List.forall_mem_cons.mp hall
      rw [List.foldl_cons, hname name hothers, hbyName, if_neg (symm hown)]
    · intro vtoken hall
      obtain ⟨hown, hothers⟩ := List.forall_mem_cons.mp hall
      rw [List.foldl_cons, hvtoken vtoken hothers, hbyVtoken, if_neg (symm hown)]

/-- Rows of different clients all become clients. -/
lemma lookup_foldl_loadClient (hrows : rows.Pairwise Apart)
    (hnew : ∀ entry ∈ rows, registry.byName.lookup entry.1 = none) :
    ∀ entry ∈ rows,
      (rows.foldl loadClient registry).byName.lookup entry.1 = some entry.2.vtoken ∧
        (rows.foldl loadClient registry).byVtoken.lookup entry.2.vtoken =
          some (entry.2.loaded entry.1) := by
  induction rows generalizing registry with
  | nil => simp
  | cons first rest ih =>
    obtain ⟨hfirst, hrest⟩ := List.pairwise_cons.mp hrows
    have hfree := loadClient_free hfirst hnew
    intro entry hentry
    rcases List.mem_cons.mp hentry with rfl | hentry
    · -- The later rows leave the first client alone.
      obtain ⟨hbyName, hbyVtoken⟩ :=
        lookup_loadClient (hnew entry List.mem_cons_self)
      obtain ⟨hname, hvtoken⟩ := frame_foldl_loadClient hrest hfree
      rw [List.foldl_cons, hname _ fun other hother =>
          (hfirst other hother).1.symm,
        hvtoken _ fun other hother => (hfirst other hother).2.symm,
        hbyName, hbyVtoken]
      exact ⟨if_pos rfl, if_pos rfl⟩
    · exact ih hrest hfree entry hentry

end ClientRegistry

namespace ClientTables

variable {tables : ClientTables} {name vtoken : String}

lemma nodup_listClients : tables.listClients.Nodup := by
  rw [listClients, (Query.orderBy_perm _ _).nodup_iff]
  exact List.NodupKeys.nodup tables.clients.nodupKeys

lemma pairwise_listClients (hdistinct : tables.Distinct) : tables.listClients.Pairwise Apart := by
  apply nodup_listClients.pairwise_of_forall_ne
  rintro ⟨left, leftRow⟩ hleft ⟨right, rightRow⟩ hright hne
  rw [mem_listClients_iff] at hleft hright
  have hname : left ≠ right := by
    rintro rfl
    obtain rfl := Option.some.inj (hleft.symm.trans hright)
    exact hne rfl
  refine ⟨hname, fun hvtoken => hname ?_⟩
  exact hdistinct right rightRow hright left leftRow hleft hvtoken

/-- The clients that the loader registers. -/
def loadedRegistry (tables : ClientTables) : ClientRegistry :=
  tables.listClients.foldl loadClient .empty

lemma lookup_loadedRegistry (hdistinct : tables.Distinct) {row : ClientRow}
    (hrow : tables.row name = some row) :
    tables.loadedRegistry.byName.lookup name = some row.vtoken ∧
      tables.loadedRegistry.byVtoken.lookup row.vtoken = some (row.loaded name) :=
  lookup_foldl_loadClient (pairwise_listClients hdistinct)
    (fun _ _ => rfl) ⟨name, row⟩ (mem_listClients_iff.mpr hrow)

/-- The loaded client of a name is the one that its row describes. -/
lemma getByName_loadedRegistry (hdistinct : tables.Distinct) :
    tables.loadedRegistry.getByName name = (tables.row name).map fun row => row.loaded name := by
  cases hrow : tables.row name with
  | some row =>
    obtain ⟨hname, hvtoken⟩ := lookup_loadedRegistry hdistinct hrow
    rw [getByName, hname]
    exact hvtoken
  | none =>
    have hname : tables.loadedRegistry.byName.lookup name = none := by
      apply (frame_foldl_loadClient (pairwise_listClients hdistinct) fun _ _ => rfl).1 name
      rintro ⟨other, row⟩ hmem rfl
      have hother := mem_listClients_iff.mp hmem
      rw [← ClientTables.row, hrow] at hother
      cases hother
    rw [getByName, hname]
    rfl

end ClientTables

namespace ClientTables

variable {tables : ClientTables}

/-- The first client in the order of the names. -/
def firstVtoken (tables : ClientTables) : Option String :=
  tables.listClients.head?.map fun entry => entry.2.vtoken

lemma routingState_foldl_backFill {answers : String → Bool} {rows : List (Σ _, ClientRow)} :
    (rows.foldl (backFill answers) tables).routingState = tables.routingState := by
  induction rows generalizing tables with
  | nil => rfl
  | cons first rest ih =>
    rw [List.foldl_cons, ih, backFill]
    repeat' split
    all_goals rfl

/-- The clients and the default after the first half of a start with a store that
answers. -/
lemma loadClients_new :
    ((Startup.mk .empty (.new none) tables).loadClients {}).registry = tables.loadedRegistry ∧
      ((Startup.mk .empty (.new none) tables).loadClients {}).router =
        .new ((tables.getRoute hubDefaultSentinel).or tables.firstVtoken) ∧
      ∀ user, user ≠ hubDefaultSentinel → ((Startup.mk .empty (.new none) tables).loadClients
          {}).tables.getRoute user = tables.getRoute user := by
  have hroute : ∀ user, (tables.listClients.foldl
      (backFill fun _ => true) tables).getRoute user = tables.getRoute user := by
    intro user
    rw [getRoute, routingState_foldl_backFill]
    rfl
  simp only [Startup.loadClients, if_true, hroute, firstVtoken]
  cases (tables.getRoute hubDefaultSentinel).or
      (tables.listClients.head?.map fun entry => entry.2.vtoken) with
  | none => exact ⟨rfl, rfl, fun user _ => hroute user⟩
  | some vtoken =>
    refine ⟨rfl, rfl, fun user hother => ?_⟩
    exact (AList.lookup_insert_ne hother).trans (hroute user)

lemma registry_loadClientsFromDb : (loadClientsFromDb {} tables).registry = tables.loadedRegistry :=
  loadClients_new.1

end ClientTables

end IlinkHub
