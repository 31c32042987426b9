/-
What version 8 of the schema leaves of the references to clients: every table with
a column of tokens refers to clients by them, and the tokens change.
-/
import IlinkHub.Migration

namespace IlinkHub

open Database

namespace Database

/-- The token is the one of the client with this name. -/
def RefersTo (db : Database) (vtoken name : String) : Prop :=
  ∃ client ∈ db.clients.rows, client.vtoken = vtoken ∧ client.name = name
deriving Decidable

section Follows

variable {ρ : Type}

/-- Every row of a table that referred to a client refers to it afterwards. -/
def Follows (before after : Database) (vtoken : ρ → Option String) (rows newRows : List ρ) : Prop :=
  List.Forall₂ (fun row newRow => ∀ own ∈ vtoken row, ∀ name,
    before.RefersTo own name → ∃ new ∈ vtoken newRow, after.RefersTo new name)
    rows newRows

/-- The clients are hashed, and no table loses a reference. -/
structure Preserved (before after : Database) : Prop where
  hashed : ∀ client ∈ after.clients.rows, isVtokenHash client.vtoken = true
  clients : before.Follows after (fun row => some (ClientRecord.vtoken row))
    before.clients.rows after.clients.rows
  routingState :
    before.Follows after (fun row => some (RouteRecord.activeVtoken row))
      before.routingState.rows after.routingState.rows
  messages : before.Follows after MessageRecord.vtoken before.messages.rows after.messages.rows
  activeSessions :
    before.Follows after (fun row => some (ActiveRecord.vtoken row))
      before.activeSessions.rows after.activeSessions.rows
  backendSessions :
    before.Follows after (fun row => some (BackendRecord.vtoken row))
      before.backendSessions.rows after.backendSessions.rows

variable {before after : Database} {vtoken : ρ → Option String}
  {rows : List ρ} {f : String → String}

lemma follows_map {g : ρ → ρ}
    (hrefers : ∀ own name, before.RefersTo own name → after.RefersTo (f own) name)
    (hvtoken : ∀ row, vtoken (g row) = (vtoken row).map f) :
    before.Follows after vtoken rows (rows.map g) := by
  rw [Follows, List.forall₂_map_right_iff, List.forall₂_same]
  intro row hrow own hown name hbefore
  refine ⟨f own, ?_, hrefers own name hbefore⟩
  rw [hvtoken, hown]
  rfl

lemma follows_self_iff :
    before.Follows after vtoken rows rows ↔
      ∀ row ∈ rows, ∀ own ∈ vtoken row, ∀ name, before.RefersTo own name →
        after.RefersTo own name := by
  rw [Follows, List.forall₂_same]
  constructor
  · intro hall row hrow own hown name hbefore
    obtain ⟨new, hnew, hafter⟩ := hall row hrow own hown name hbefore
    have hsame := Option.some.inj (hown.symm.trans hnew)
    exact hsame ▸ hafter
  · intro hall row hrow own hown name hbefore
    exact ⟨own, hown, hall row hrow own hown name hbefore⟩

end Follows

variable {db middle after : Database} {f : String → String}

section Renaming

lemma Renamed.refersTo (hrenamed : Renamed f db after) {own name : String}
    (hbefore : db.RefersTo own name) : after.RefersTo (f own) name := by
  obtain ⟨client, hclient, rfl, rfl⟩ := hbefore
  refine ⟨client.rename f, ?_, rfl, rfl⟩
  rw [hrenamed.1]
  exact List.mem_map_of_mem hclient

lemma exists_renamed_iff :
    (∃ after, Renamed f db after) ↔ ClientRecord.Unique (db.clients.rows.map (.rename f)) := by
  constructor
  · rintro ⟨after, hrows, -⟩
    exact hrows ▸ after.clients.valid
  · intro hunique
    exact ⟨db.renamed f ⟨_, hunique⟩, rfl, rfl⟩

/-- The names stay, so only the tokens have to be distinct. -/
lemma unique_rename_iff :
    ClientRecord.Unique (db.clients.rows.map (.rename f)) ↔
      ∀ left ∈ db.clients.rows, ∀ right ∈ db.clients.rows,
        f left.vtoken = f right.vtoken → left = right := by
  have hnames : Table.Keyed ClientRecord.name (db.clients.rows.map (.rename f)) := by
    rw [Table.Keyed, List.map_map]
    exact db.clients.valid.2
  have hrows := List.Nodup.of_map _ db.clients.valid.1
  rw [ClientRecord.Unique, and_iff_left hnames, Table.Keyed, List.map_map,
    List.nodup_map_iff_inj_on hrows]
  rfl

lemma preserved_credentials_iff
    {credentials : Table CredentialRecord (Table.Keyed CredentialRecord.id)} :
    db.Preserved { middle with botCredentials := credentials } ↔
      db.Preserved middle :=
  ⟨fun ⟨hhashed, hclients, hroutes, hmessages, hactive, hbackend⟩ =>
      ⟨hhashed, hclients, hroutes, hmessages, hactive, hbackend⟩,
    fun ⟨hhashed, hclients, hroutes, hmessages, hactive, hbackend⟩ =>
      ⟨hhashed, hclients, hroutes, hmessages, hactive, hbackend⟩⟩

end Renaming

end Database

namespace Migrator

variable {Key Nonce : Type} {migrator : Migrator Key Nonce} {db after : Database}

section NewVtoken

lemma newVtoken_of_hash {vtoken : String} (hhash : isVtokenHash vtoken = true) :
    migrator.newVtoken db vtoken = vtoken := by
  apply if_neg
  intro hmem
  have hplain := isVtokenHash_of_mem_vtokensToHash ((migrator.order_perm _).mem_iff.mp hmem)
  simp [hhash] at hplain

lemma newVtoken_of_client {client : ClientRecord} (hclient : client ∈ db.clients.rows)
    (hplain : isVtokenHash client.vtoken = false) :
    migrator.newVtoken db client.vtoken = migrator.digest.hashVtoken client.vtoken :=
  if_pos ((migrator.order_perm _).mem_iff.mpr (mem_vtokensToHash_of_client hclient hplain))

lemma isVtokenHash_newVtoken {client : ClientRecord} (hclient : client ∈ db.clients.rows) :
    isVtokenHash (migrator.newVtoken db client.vtoken) = true := by
  cases hplain : isVtokenHash client.vtoken with
  | true => rw [newVtoken_of_hash hplain, hplain]
  | false => rw [newVtoken_of_client hclient hplain, isVtokenHash_hashVtoken]

lemma hashed_of_renamed (hrenamed : Renamed (migrator.newVtoken db) db after) :
    ∀ client ∈ after.clients.rows, isVtokenHash client.vtoken = true := by
  intro client hclient
  rw [hrenamed.1] at hclient
  obtain ⟨own, hown, rfl⟩ := List.mem_map.mp hclient
  exact isVtokenHash_newVtoken hown

/-- The hash tells the tokens of the clients apart. -/
def TellsApart (migrator : Migrator Key Nonce) (db : Database) : Prop :=
  ∀ left ∈ db.clients.rows, ∀ right ∈ db.clients.rows,
    migrator.digest.hashVtoken left.vtoken = migrator.digest.hashVtoken right.vtoken →
      left.vtoken = right.vtoken

/-- No client has the hash of another client's plaintext token for a token. -/
def NoHashTaken (migrator : Migrator Key Nonce) (db : Database) : Prop :=
  ∀ client ∈ db.clients.rows, isVtokenHash client.vtoken = false → ∀ other ∈ db.clients.rows,
      other.vtoken ≠ migrator.digest.hashVtoken client.vtoken

lemma unique_newVtoken_iff (hinjective : migrator.TellsApart db) :
    ClientRecord.Unique (db.clients.rows.map (.rename (migrator.newVtoken db))) ↔
      migrator.NoHashTaken db := by
  rw [unique_rename_iff]
  constructor
  · intro hdistinct client hclient hplain other hother heq
    have hhash : isVtokenHash other.vtoken = true := by
      rw [heq, isVtokenHash_hashVtoken]
    have hsame : other = client := by
      apply hdistinct other hother client hclient
      rw [newVtoken_of_hash hhash, newVtoken_of_client hclient hplain, heq]
    simp [hsame, hplain] at hhash
  · intro htaken left hleft right hright heq
    have hvtoken : left.vtoken = right.vtoken := by
      cases hfirst : isVtokenHash left.vtoken with
      | true =>
        rw [newVtoken_of_hash hfirst] at heq
        cases hsecond : isVtokenHash right.vtoken with
        | true => rw [heq, newVtoken_of_hash hsecond]
        | false =>
          rw [newVtoken_of_client hright hsecond] at heq
          exact absurd heq (htaken right hright hsecond left hleft)
      | false =>
        rw [newVtoken_of_client hleft hfirst] at heq
        cases hsecond : isVtokenHash right.vtoken with
        | true =>
          rw [newVtoken_of_hash hsecond] at heq
          exact absurd heq.symm (htaken left hleft hfirst right hright)
        | false =>
          rw [newVtoken_of_client hright hsecond] at heq
          exact hinjective left hleft right hright heq
    exact List.inj_on_of_nodup_map db.clients.valid.1 hleft hright hvtoken

end NewVtoken

section Sessions

variable {ρ : Type}

/-- No row has the plaintext token of a client. -/
def Apart (db : Database) (vtoken : ρ → String) (rows : List ρ) : Prop :=
  ∀ row ∈ rows, ∀ client ∈ db.clients.rows,
    isVtokenHash client.vtoken = false → vtoken row ≠ client.vtoken

/-- Rows that the migration does not touch keep their clients only if those were
hashed before. -/
lemma follows_untouched_iff {vtoken : ρ → String} {rows : List ρ}
    (hrenamed : Renamed (migrator.newVtoken db) db after) :
    db.Follows after (fun row => some (vtoken row)) rows rows ↔
      Apart db vtoken rows := by
  rw [follows_self_iff]
  constructor
  · intro hall row hrow client hclient hplain heq
    obtain ⟨new, hnew, hvtoken, -⟩ := hall row hrow (vtoken row) rfl client.name
      ⟨client, hclient, heq.symm, rfl⟩
    have hhash := hashed_of_renamed hrenamed new hnew
    simp [hvtoken, heq, hplain] at hhash
  · intro hapart row hrow own hown name hbefore
    have hsame := Option.some.inj hown
    have hafter := hrenamed.refersTo hbefore
    obtain ⟨client, hclient, hvtoken, -⟩ := hbefore
    have hhash : isVtokenHash own = true := by
      by_contra hplain
      rw [Bool.not_eq_true, ← hvtoken] at hplain
      exact hapart row hrow client hclient hplain (hsame.trans hvtoken.symm)
    rwa [newVtoken_of_hash hhash] at hafter

lemma preserved_renamed_iff (hrenamed : Renamed (migrator.newVtoken db) db after) :
    db.Preserved after ↔ Apart db ActiveRecord.vtoken db.activeSessions.rows ∧
        Apart db BackendRecord.vtoken db.backendSessions.rows := by
  have hrefers : ∀ own name, db.RefersTo own name →
      after.RefersTo (migrator.newVtoken db own) name :=
    fun _ _ hbefore => hrenamed.refersTo hbefore
  have hroutes : after.routingState.rows = db.routingState.rows.map
      (.rename (migrator.newVtoken db)) := by
    rw [hrenamed.2]
    rfl
  have hmessages : after.messages.rows = db.messages.rows.map
      (.rename (migrator.newVtoken db)) := by
    rw [hrenamed.2]
    rfl
  have hactive : after.activeSessions = db.activeSessions := by
    rw [hrenamed.2]
    rfl
  have hbackend : after.backendSessions = db.backendSessions := by
    rw [hrenamed.2]
    rfl
  rw [← follows_untouched_iff hrenamed, ← follows_untouched_iff hrenamed]
  constructor
  · intro hpreserved
    have hactives := hpreserved.activeSessions
    have hbackends := hpreserved.backendSessions
    rw [hactive] at hactives
    rw [hbackend] at hbackends
    exact ⟨hactives, hbackends⟩
  · rintro ⟨hactives, hbackends⟩
    exact {
        hashed := hashed_of_renamed hrenamed
        clients := hrenamed.1 ▸ follows_map hrefers fun _ => rfl
        routingState := hroutes ▸ follows_map hrefers fun _ => rfl
        messages := hmessages ▸ follows_map hrefers fun _ => rfl
        activeSessions := hactive ▸ hactives
        backendSessions := hbackend ▸ hbackends }

end Sessions

section References

/-- What the conversion needs to keep all references. -/
structure Convertible (migrator : Migrator Key Nonce) (db : Database) :
    Prop where
  first : ∃ client, migrator.firstClient db = some client ∧ isVtokenHash client.vtoken = false
  key : ∃ key, migrator.masterKey = .ok key ∧
    ∀ row ∈ db.botCredentials.rows, migrator.Sealable key row
  free : migrator.NoHashTaken db
  activeSessions : Apart db ActiveRecord.vtoken db.activeSessions.rows
  backendSessions : Apart db BackendRecord.vtoken db.backendSessions.rows

lemma convert_preserved_iff (hinjective : migrator.TellsApart db) :
    (∃ after, migrator.convert db = .ok after ∧ db.Preserved after) ↔
      (∃ key, migrator.masterKey = .ok key ∧
        ∀ row ∈ db.botCredentials.rows, migrator.Sealable key row) ∧
      migrator.NoHashTaken db ∧
      Apart db ActiveRecord.vtoken db.activeSessions.rows ∧
        Apart db BackendRecord.vtoken db.backendSessions.rows := by
  rw [← unique_newVtoken_iff hinjective, ← exists_renamed_iff]
  constructor
  · rintro ⟨after, hok, hpreserved⟩
    obtain ⟨key, middle, hkey, hrenamed, hsealed⟩ := convert_eq_ok_iff.mp hok
    rw [encryptCredentials_frame hsealed, preserved_credentials_iff,
      preserved_renamed_iff hrenamed] at hpreserved
    exact ⟨⟨key, hkey, encryptCredentials_isOk_iff.mp ⟨after, hsealed⟩⟩,
      ⟨middle, hrenamed⟩, hpreserved⟩
  · rintro ⟨⟨key, hkey, hsealable⟩, ⟨middle, hrenamed⟩, hapart⟩
    have hsealed := @encryptCredentials_isOk_iff Key Nonce migrator key middle
    obtain ⟨after, hafter⟩ := hsealed.mpr hsealable
    refine ⟨after, convert_eq_ok_iff.mpr ⟨key, middle, hkey, hrenamed, hafter⟩, ?_⟩
    rw [encryptCredentials_frame hafter, preserved_credentials_iff, preserved_renamed_iff hrenamed]
    exact hapart

lemma claimed_preserved_iff : (claimed db).Preserved after ↔ db.Preserved after :=
  ⟨fun ⟨hhashed, hclients, hroutes, hmessages, hactive, hbackend⟩ =>
      ⟨hhashed, hclients, hroutes, hmessages, hactive, hbackend⟩,
    fun ⟨hhashed, hclients, hroutes, hmessages, hactive, hbackend⟩ =>
      ⟨hhashed, hclients, hroutes, hmessages, hactive, hbackend⟩⟩

lemma preserved_claimed_iff :
    db.Preserved (claimed db) ↔ ∀ client ∈ db.clients.rows, isVtokenHash client.vtoken = true := by
  have hsame : ∀ {ρ : Type} {vtoken : ρ → Option String} {rows : List ρ},
      db.Follows (claimed db) vtoken rows rows :=
    follows_self_iff.mpr fun _ _ _ _ _ hbefore => hbefore
  exact ⟨fun hpreserved => hpreserved.hashed,
    fun hhashed => ⟨hhashed, hsame, hsame, hsame, hsame, hsame⟩⟩

/-- The migration hashes all clients and keeps all references exactly if there is
nothing to hash, or it converts and no session belongs to a plaintext token. -/
theorem migrate_preserved_iff (hversion : 8 ∉ db.versions) (hinjective : migrator.TellsApart db) :
    (∃ after, migrator.migrateToV8Tx db = .ok after ∧ db.Preserved after) ↔
      (∀ client ∈ db.clients.rows, isVtokenHash client.vtoken = true) ∨
        migrator.Convertible db := by
  by_cases hskips : migrator.Skips db
  · have hnot : ¬ migrator.Convertible db :=
      fun hconvertible => not_skips_iff.mpr hconvertible.first hskips
    rw [migrateToV8Tx_of_skips hversion hskips, or_iff_left hnot, ← preserved_claimed_iff]
    constructor
    · rintro ⟨after, hok, hpreserved⟩
      cases hok
      exact hpreserved
    · exact fun hpreserved => ⟨claimed db, rfl, hpreserved⟩
  · obtain ⟨client, hfirst, hplain⟩ := not_skips_iff.mp hskips
    have hsome : ¬ ∀ client ∈ db.clients.rows, isVtokenHash client.vtoken = true := by
      intro hall
      simp [hall client (Query.of_limitOne hfirst).1] at hplain
    have hconvert := @convert_preserved_iff Key Nonce migrator (claimed db) hinjective
    simp only [claimed_preserved_iff] at hconvert
    rw [migrateToV8Tx_of_not_skips hversion hskips, or_iff_right hsome, hconvert]
    constructor
    · rintro ⟨hkey, hfree, hactive, hbackend⟩
      exact ⟨⟨client, hfirst, hplain⟩, hkey, hfree, hactive, hbackend⟩
    · rintro ⟨-, hkey, hfree, hactive, hbackend⟩
      exact ⟨hkey, hfree, hactive, hbackend⟩

open Sample

theorem migrate_preserved_oneClient :
    plain.Convertible (database oneClient) ∧
      ∃ after, plain.migrateToV8Tx (database oneClient) = .ok after ∧
        (database oneClient).Preserved after := by
  have hinjective : plain.TellsApart (database oneClient) := by
    unfold TellsApart
    decide
  have hconvertible : plain.Convertible (database oneClient) :=
    { first := ⟨⟨"vhub_a", "a"⟩, by decide, by decide⟩
      key := ⟨(), rfl, by
        unfold Sealable
        decide⟩
      free := by
        unfold NoHashTaken
        decide +kernel
      activeSessions := List.forall_mem_nil _
      backendSessions := List.forall_mem_nil _ }
  exact ⟨hconvertible, (migrate_preserved_iff (by decide) hinjective).mpr (.inr hconvertible)⟩

/-- The client has an active session. -/
def Sample.withSession : Database :=
  { database oneClient with
    activeSessions := ⟨[⟨"vctx", "vhub_a", "default"⟩], by decide⟩ }

/-- The session still has the old token, which belongs to no client any more. -/
theorem not_preserved_withSession :
    8 ∉ withSession.versions ∧ plain.TellsApart withSession ∧
      withSession.RefersTo "vhub_a" "a" ∧
      ∃ after, plain.migrateToV8Tx withSession = .ok after ∧
        after.activeSessions.rows = [⟨"vctx", "vhub_a", "default"⟩] ∧
        ¬ after.RefersTo "vhub_a" "a" ∧ ¬ withSession.Preserved after := by
  have hinjective : plain.TellsApart withSession := by
    unfold TellsApart
    decide
  have hbefore : withSession.RefersTo "vhub_a" "a" := by decide
  have hrun : (plain.migrateToV8Tx withSession).toOption.map
      (fun after => (after.activeSessions.rows,
        decide (after.RefersTo "vhub_a" "a"))) =
      some ([⟨"vctx", "vhub_a", "default"⟩], false) := by decide +kernel
  cases hafter : plain.migrateToV8Tx withSession with
  | error e =>
    rw [hafter] at hrun
    cases hrun
  | ok after =>
    rw [hafter] at hrun
    obtain ⟨hrows, hlost⟩ := Prod.mk.inj (Option.some.inj hrun)
    have hnone := of_decide_eq_false hlost
    refine ⟨by decide, hinjective, hbefore, after, rfl, hrows, hnone, ?_⟩
    intro hpreserved
    have hfollows := hpreserved.activeSessions
    rw [hrows] at hfollows
    have hsession := follows_self_iff.mp hfollows _ List.mem_cons_self "vhub_a" rfl "a" hbefore
    exact hnone hsession

end References

end Migrator

end IlinkHub
