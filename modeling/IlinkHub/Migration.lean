/-
Version 8 of the schema (`store/migrations.rs`): the tokens of the clients are
hashed (`hub/vtoken_hash.rs`) and the tokens of the bot are encrypted, on the
tables as version 7 leaves them; and the credentials as they are read afterwards
(`store/credentials.rs`).  A table that does not exist counts as an empty one,
since the migration passes over both.
-/
import Mathlib.Data.List.Dedup
import IlinkHub.Query
import IlinkHub.Table
import IlinkHub.Text

namespace IlinkHub

open Text

section Hashing

def isAsciiHexdigit (byte : UInt8) : Bool :=
  (48 ≤ byte && byte ≤ 57) || (65 ≤ byte && byte ≤ 70) || (97 ≤ byte && byte ≤ 102)

def isAsciiUppercase (byte : UInt8) : Bool :=
  65 ≤ byte && byte ≤ 90

def isVtokenHash (s : String) : Bool :=
  (utf8Bytes s.toList).length = 64 && (utf8Bytes s.toList).all fun byte =>
      isAsciiHexdigit byte && !isAsciiUppercase byte

def hexDigit (n : Nat) : Char :=
  "0123456789abcdef".toList.getD n '0'

def hexLower (bytes : List UInt8) : String :=
  String.ofList (bytes.flatMap fun byte : UInt8 =>
    [hexDigit (byte >>> 4).toNat, hexDigit (byte &&& 0x0f).toNat])

/-- SHA-256, as far as its digests have 32 bytes. -/
structure Digest where
  sha256 : List UInt8 → List UInt8
  length_sha256 : ∀ bytes, (sha256 bytes).length = 32

def Digest.hashVtoken (digest : Digest) (plain : String) : String :=
  hexLower (digest.sha256 (utf8Bytes plain.toList))

lemma hexDigit_mem (n : Nat) : hexDigit n ∈ "0123456789abcdef".toList := by
  rw [hexDigit, List.getD_eq_getElem?_getD]
  cases hchar : "0123456789abcdef".toList[n]? with
  | none => decide
  | some c => exact List.mem_of_getElem? hchar

lemma utf8Bytes_hexLower (bytes : List UInt8) :
    (utf8Bytes (hexLower bytes).toList).length = 2 * bytes.length ∧
      ∀ byte ∈ utf8Bytes (hexLower bytes).toList,
        (isAsciiHexdigit byte && !isAsciiUppercase byte) = true := by
  have hchar : ∀ c ∈ "0123456789abcdef".toList,
      (String.utf8EncodeChar c).length = 1 ∧ ∀ byte ∈ String.utf8EncodeChar c,
          (isAsciiHexdigit byte && !isAsciiUppercase byte) = true := by
    have hall : ("0123456789abcdef".toList.all fun c =>
        decide ((String.utf8EncodeChar c).length = 1) && (String.utf8EncodeChar c).all fun byte =>
            isAsciiHexdigit byte && !isAsciiUppercase byte) = true := by decide
    intro c hc
    have hboth := List.all_eq_true.mp hall c hc
    rw [Bool.and_eq_true, decide_eq_true_eq, List.all_eq_true] at hboth
    exact hboth
  rw [hexLower, String.toList_ofList, utf8Bytes]
  induction bytes with
  | nil => exact ⟨rfl, List.forall_mem_nil _⟩
  | cons first rest ih =>
    obtain ⟨hlength, hall⟩ := ih
    obtain ⟨hhigh, hhighs⟩ := hchar _ (hexDigit_mem (first >>> 4).toNat)
    obtain ⟨hlow, hlows⟩ := hchar _ (hexDigit_mem (first &&& 0x0f).toNat)
    simp only [List.flatMap_cons, List.flatMap_append, List.flatMap_nil,
      List.append_nil, List.length_append, List.length_cons, List.mem_append]
    constructor
    · omega
    · rintro byte ((hbyte | hbyte) | hbyte)
      · exact hhighs byte hbyte
      · exact hlows byte hbyte
      · exact hall byte hbyte

@[simp]
lemma isVtokenHash_hashVtoken (digest : Digest) (plain : String) :
    isVtokenHash (digest.hashVtoken plain) = true := by
  obtain ⟨hlength, hall⟩ :=
    utf8Bytes_hexLower (digest.sha256 (utf8Bytes plain.toList))
  rw [isVtokenHash, Bool.and_eq_true, decide_eq_true_eq, List.all_eq_true]
  rw [digest.length_sha256] at hlength
  exact ⟨hlength, hall⟩

end Hashing

/-- `encrypt_token`, by the nonce that it draws, and `decrypt_token`. -/
structure Cipher (Key Nonce : Type) where
  encryptToken : Nonce → String → Key → Except String String
  decryptToken : String → Key → Except String String

section Schema

structure ClientRecord where
  vtoken : String
  name : String
deriving Repr, DecidableEq

structure RouteRecord where
  fromUser : String
  activeVtoken : String
deriving Repr, DecidableEq

structure MessageRecord where
  id : Int
  vtoken : Option String
deriving Repr, DecidableEq

structure ActiveRecord where
  vctx : String
  vtoken : String
  sessionName : String
deriving Repr, DecidableEq

structure BackendRecord where
  vctx : String
  vtoken : String
  sessionName : String
  backendSessionId : String
deriving Repr, DecidableEq

structure CredentialRecord where
  id : Int
  token : String
  baseUrl : String
deriving Repr, DecidableEq

/-- The primary key and the names. -/
def ClientRecord.Unique (rows : List ClientRecord) : Prop :=
  Table.Keyed ClientRecord.vtoken rows ∧ Table.Keyed ClientRecord.name rows
deriving Decidable

def ActiveRecord.key (row : ActiveRecord) : String × String :=
  (row.vctx, row.vtoken)

def BackendRecord.key (row : BackendRecord) : String × String × String :=
  (row.vctx, row.vtoken, row.sessionName)

structure Database where
  versions : List Nat
  clients : Table ClientRecord ClientRecord.Unique
  routingState : Table RouteRecord (Table.Keyed RouteRecord.fromUser)
  messages : Table MessageRecord (Table.Keyed MessageRecord.id)
  activeSessions : Table ActiveRecord (Table.Keyed ActiveRecord.key)
  backendSessions : Table BackendRecord (Table.Keyed BackendRecord.key)
  botCredentials : Table CredentialRecord (Table.Keyed CredentialRecord.id)

def ClientRecord.rename (f : String → String) (row : ClientRecord) : ClientRecord :=
  { row with vtoken := f row.vtoken }

def RouteRecord.rename (f : String → String) (row : RouteRecord) : RouteRecord :=
  { row with activeVtoken := f row.activeVtoken }

/-- A message without a token keeps none. -/
def MessageRecord.rename (f : String → String) (row : MessageRecord) : MessageRecord :=
  { row with vtoken := row.vtoken.map f }

namespace Database

def tryClaimMigration (db : Database) (version : Nat) : Bool × Database :=
  if version ∈ db.versions then (false, db)
  else (true, { db with versions := version :: db.versions })

/-- The tables with other tokens, next to a table of the clients. -/
def renamed (f : String → String) (db : Database)
    (clients : Table ClientRecord ClientRecord.Unique) : Database :=
  { db with
    clients := clients
    routingState := db.routingState.modify (RouteRecord.rename f) fun _ => rfl
    messages := db.messages.modify (MessageRecord.rename f) fun _ => rfl }

/-- The three updates for one token; `none` is a new token that is the key of
another client. -/
def rename (old new : String) (db : Database) : Option Database :=
  (db.clients.update (ClientRecord.rename (Table.replace old new))).map
    (db.renamed (Table.replace old new))

/-- The tokens that are no hashes, once each. -/
def vtokensToHash (db : Database) : List String :=
  ((db.clients.rows.map ClientRecord.vtoken ++ db.routingState.rows.map RouteRecord.activeVtoken ++
    db.messages.rows.filterMap MessageRecord.vtoken).filter
      fun vtoken => !isVtokenHash vtoken).dedup

def setToken (id : Int) (token : String) (db : Database) : Database :=
  { db with
    botCredentials := db.botCredentials.modify
      (fun row => if row.id = id then { row with token := token } else row) (by
        intro row
        split <;> rfl) }

end Database

end Schema

inductive MigrationError where
  | masterKey (text : String)
  | constraint
  | encryption (text : String)
deriving Repr, DecidableEq

/-- What the migration runs with: the key of the store and the one that
`load_or_derive_master_key` returns, the row that `LIMIT 1` picks, the order in
which the hash set is walked, and the nonces that are drawn. -/
structure Migrator (Key Nonce : Type) where
  digest : Digest
  cipher : Cipher Key Nonce
  configured : Option Key
  derived : Except String Key
  tie : Nat
  order : List String → List String
  order_perm : ∀ vtokens, (order vtokens).Perm vtokens
  nonce : Int → Nonce

namespace Migrator

variable {Key Nonce : Type} (migrator : Migrator Key Nonce)

def masterKey : Except MigrationError Key :=
  match migrator.configured with
  | some key => .ok key
  | none =>
    match migrator.derived with
    | .ok key => .ok key
    | .error e => .error (.masterKey
        ("Migration v8 failed: ILINK_HUB_MASTER_KEY is required to encrypt " ++
          "bot credentials, but could not be loaded: " ++ e))

/-- `SELECT vtoken FROM clients LIMIT 1`. -/
def firstClient (db : Database) : Option ClientRecord :=
  Query.limitOne (fun _ _ => true) migrator.tie db.clients.rows

def hashVtokens (vtokens : List String) (db : Database) : Option Database :=
  vtokens.foldlM (fun db old => db.rename old (migrator.digest.hashVtoken old)) db

/-- A token that can be decrypted is encrypted already. -/
def encryptCredential (key : Key) (db : Database) (row : CredentialRecord) :
    Except MigrationError Database :=
  match migrator.cipher.decryptToken row.token key with
  | .ok _ => .ok db
  | .error _ =>
    match migrator.cipher.encryptToken (migrator.nonce row.id) row.token key with
    | .ok encrypted => .ok (db.setToken row.id encrypted)
    | .error e => .error (.encryption e)

def encryptCredentials (key : Key) (rows : List CredentialRecord)
    (db : Database) : Except MigrationError Database :=
  rows.foldlM (migrator.encryptCredential key) db

/-- The conversion of the data, after the checks. -/
def convert (db : Database) : Except MigrationError Database :=
  match migrator.masterKey with
  | .error e => .error e
  | .ok key =>
    match migrator.hashVtokens (migrator.order db.vtokensToHash) db with
    | none => .error .constraint
    | some db => migrator.encryptCredentials key db.botCredentials.rows db

def migrateToV8Tx (db : Database) : Except MigrationError Database :=
  match db.tryClaimMigration 8 with
  | (false, db) => .ok db
  | (true, db) =>
    match migrator.firstClient db with
    | none => .ok db
    | some client =>
      if isVtokenHash client.vtoken then .ok db
      else migrator.convert db

end Migrator

def loadCredentials {Key Nonce : Type} (cipher : Cipher Key Nonce)
    (configured : Option Key) (db : Database) : Except String (Option (String × String)) :=
  match db.botCredentials.find 1 with
  | none => .ok none
  | some row =>
    match configured with
    | none => .error "Master key not configured on Store"
    | some key =>
      match cipher.decryptToken row.token key with
      | .ok token => .ok (some (token, row.baseUrl))
      | .error e => .error e

namespace Database

variable {db after : Database} {f g : String → String}

section Renaming

/-- What an update of all tokens does. -/
def Renamed (f : String → String) (db after : Database) : Prop :=
  after.clients.rows = db.clients.rows.map (ClientRecord.rename f) ∧
    after = db.renamed f after.clients

lemma rename_eq_some_iff {old new : String} :
    db.rename old new = some after ↔ Renamed (Table.replace old new) db after := by
  rw [rename, Option.map_eq_some_iff]
  constructor
  · rintro ⟨clients, hclients, rfl⟩
    exact ⟨Table.update_eq_some_iff.mp hclients, rfl⟩
  · rintro ⟨hrows, heq⟩
    exact ⟨after.clients, Table.update_eq_some_iff.mpr hrows, heq.symm⟩

lemma renamed_renamed (f g : String → String) (db : Database)
    (middle clients : Table ClientRecord ClientRecord.Unique) :
    (db.renamed f middle).renamed g clients = db.renamed (g ∘ f) clients := by
  have hroutes : .rename g ∘ .rename f = RouteRecord.rename (g ∘ f) := rfl
  have hmessages : .rename g ∘ .rename f = MessageRecord.rename (g ∘ f) := by
    funext row
    simp [MessageRecord.rename]
  simp [renamed, Table.modify, hroutes, hmessages]

lemma renamed_id_iff : Renamed id db after ↔ after = db := by
  have hclients : ClientRecord.rename id = id := rfl
  have hroutes : RouteRecord.rename id = id := rfl
  have hmessages : MessageRecord.rename id = id := by
    funext row
    simp [MessageRecord.rename]
  have hsame : db.renamed id db.clients = db := by
    simp [renamed, Table.modify, hroutes, hmessages]
  rw [Renamed, hclients, List.map_id]
  constructor
  · rintro ⟨hrows, heq⟩
    rw [heq, Table.ext hrows, hsame]
  · rintro rfl
    exact ⟨rfl, hsame.symm⟩

/-- Tokens that are distinct in the end were distinct before. -/
lemma unique_of_unique_comp {rows : List ClientRecord}
    (hunique : ClientRecord.Unique (rows.map (.rename (g ∘ f)))) :
    ClientRecord.Unique (rows.map (.rename f)) := by
  obtain ⟨hvtokens, hnames⟩ := hunique
  have hcomp : (rows.map (.rename (g ∘ f))).map
      ClientRecord.vtoken = ((rows.map (.rename f)).map ClientRecord.vtoken).map g := by
    simp only [List.map_map]
    rfl
  constructor
  · rw [Table.Keyed, hcomp] at hvtokens
    exact List.Nodup.of_map g hvtokens
  · rw [Table.Keyed, List.map_map] at hnames ⊢
    exact hnames

lemma renamed_comp_iff :
    Renamed (g ∘ f) db after ↔ ∃ middle, Renamed f db middle ∧ Renamed g middle after := by
  have hclients : .rename g ∘ .rename f = ClientRecord.rename (g ∘ f) := rfl
  constructor
  · rintro ⟨hrows, heq⟩
    have hunique := unique_of_unique_comp (hrows ▸ after.clients.valid)
    refine ⟨db.renamed f ⟨_, hunique⟩, ⟨rfl, rfl⟩, ?_, ?_⟩
    · rw [hrows, ← hclients, ← List.map_map]
      rfl
    · rw [renamed_renamed]
      exact heq
  · rintro ⟨middle, ⟨hfirst, hmiddle⟩, hsecond, hafter⟩
    constructor
    · rw [hsecond, hfirst, List.map_map, hclients]
    · rw [← renamed_renamed f g db middle.clients, ← hmiddle]
      exact hafter

lemma isVtokenHash_of_mem_vtokensToHash {vtoken : String}
    (hmem : vtoken ∈ db.vtokensToHash) : isVtokenHash vtoken = false := by
  have hplain := (List.mem_filter.mp (List.mem_dedup.mp hmem)).2
  rwa [Bool.not_eq_true'] at hplain

lemma mem_vtokensToHash_of_client {client : ClientRecord} (hclient : client ∈ db.clients.rows)
    (hplain : isVtokenHash client.vtoken = false) : client.vtoken ∈ db.vtokensToHash := by
  apply List.mem_dedup.mpr
  apply List.mem_filter.mpr
  constructor
  · exact List.mem_append_left _ (List.mem_append_left _ (List.mem_map_of_mem hclient))
  · rw [hplain]
    rfl

end Renaming

end Database

namespace Migrator

variable {Key Nonce : Type} {migrator : Migrator Key Nonce} {key : Key} {db after : Database}

/-- The tokens are replaced one after the other, in any order. -/
lemma hashVtokens_eq_some_iff {vtokens : List String}
    (hplain : ∀ vtoken ∈ vtokens, isVtokenHash vtoken = false) :
    migrator.hashVtokens vtokens db = some after ↔
      Database.Renamed (Table.relabel migrator.digest.hashVtoken vtokens) db after := by
  induction vtokens generalizing db with
  | nil =>
    rw [Table.relabel_nil, Database.renamed_id_iff, hashVtokens]
    exact Option.some_inj.trans eq_comm
  | cons old rest ih =>
    obtain ⟨-, hrest⟩ := List.forall_mem_cons.mp hplain
    have hfresh : migrator.digest.hashVtoken old ∉ rest := by
      intro hmem
      have hhash := isVtokenHash_hashVtoken migrator.digest old
      rw [hrest _ hmem] at hhash
      exact Bool.false_ne_true hhash
    rw [Table.relabel_cons hfresh, Database.renamed_comp_iff, hashVtokens,
      List.foldlM_cons, Option.bind_eq_bind, Option.bind_eq_some_iff]
    apply exists_congr
    intro middle
    exact and_congr Database.rename_eq_some_iff (ih hrest)

section Credentials

/-- The token can be read already, or it can be encrypted. -/
def Sealable (migrator : Migrator Key Nonce) (key : Key) (row : CredentialRecord) : Prop :=
  (migrator.cipher.decryptToken row.token key).isOk = true ∨
    (migrator.cipher.encryptToken (migrator.nonce row.id) row.token key).isOk = true

variable {row : CredentialRecord} {rows : List CredentialRecord}

lemma encryptCredential_cases (hok : migrator.encryptCredential key db row = .ok after) :
    ((migrator.cipher.decryptToken row.token key).isOk = true ∧ after = db) ∨
      ∃ blob, migrator.cipher.encryptToken (migrator.nonce row.id) row.token key = .ok blob ∧
        (migrator.cipher.decryptToken row.token key).isOk = false ∧
        after = db.setToken row.id blob := by
  unfold encryptCredential at hok
  split at hok
  · next token hread =>
    rw [hread]
    exact .inl ⟨rfl, (Except.ok.inj hok).symm⟩
  · next e hread =>
    right
    split at hok
    · next blob hblob =>
      rw [hread]
      exact ⟨blob, hblob, rfl, (Except.ok.inj hok).symm⟩
    · cases hok

lemma encryptCredential_isOk_iff :
    (∃ after, migrator.encryptCredential key db row = .ok after) ↔ migrator.Sealable key row := by
  unfold encryptCredential Sealable
  cases migrator.cipher.decryptToken row.token key with
  | ok token => exact iff_of_true ⟨db, rfl⟩ (.inl rfl)
  | error e =>
    cases migrator.cipher.encryptToken (migrator.nonce row.id) row.token key with
    | ok blob => exact iff_of_true ⟨_, rfl⟩ (.inr rfl)
    | error cause =>
      apply iff_of_false
      · rintro ⟨after, hok⟩
        cases hok
      · rintro (hread | hsealed)
        · cases hread
        · cases hsealed

lemma encryptCredentials_cons {first : CredentialRecord} {rest : List CredentialRecord} :
    migrator.encryptCredentials key (first :: rest) db = .ok after ↔
      ∃ middle, migrator.encryptCredential key db first = .ok middle ∧
        migrator.encryptCredentials key rest middle = .ok after := by
  rw [encryptCredentials, List.foldlM_cons]
  cases migrator.encryptCredential key db first with
  | error e =>
    apply iff_of_false
    · intro hok
      cases hok
    · rintro ⟨middle, hok, -⟩
      cases hok
  | ok middle =>
    constructor
    · exact fun hok => ⟨middle, rfl, hok⟩
    · rintro ⟨other, hother, hok⟩
      cases hother
      exact hok

lemma encryptCredentials_isOk_iff :
    (∃ after, migrator.encryptCredentials key rows db = .ok after) ↔
      ∀ row ∈ rows, migrator.Sealable key row := by
  induction rows generalizing db with
  | nil => exact iff_of_true ⟨db, rfl⟩ (List.forall_mem_nil _)
  | cons first rest ih =>
    have hstep := @encryptCredential_isOk_iff Key Nonce migrator key db first
    simp only [encryptCredentials_cons, List.forall_mem_cons]
    rw [← hstep]
    constructor
    · rintro ⟨after, middle, hfirst, hrest⟩
      exact ⟨⟨middle, hfirst⟩, ih.mp ⟨after, hrest⟩⟩
    · rintro ⟨⟨middle, hfirst⟩, hrest⟩
      obtain ⟨after, hok⟩ := ih.mpr hrest
      exact ⟨after, middle, hfirst, hok⟩

lemma encryptCredentials_frame (hok : migrator.encryptCredentials key rows db = .ok after) :
    after = { db with botCredentials := after.botCredentials } := by
  induction rows generalizing db with
  | nil =>
    cases hok
    rfl
  | cons first rest ih =>
    obtain ⟨middle, hfirst, hrest⟩ := encryptCredentials_cons.mp hok
    have hafter := ih hrest
    rcases encryptCredential_cases hfirst with ⟨-, rfl⟩ | ⟨blob, -, -, rfl⟩
    · exact hafter
    · exact hafter

lemma find_setToken {id k : Int} {token : String} :
    (db.setToken id token).botCredentials.find k = (db.botCredentials.find k).map fun row =>
        if row.id = id then { row with token := token } else row := by
  simp [Database.setToken, Table.find_modify]

lemma find_setToken_of_ne {id k : Int} {token : String} (hne : k ≠ id) :
    (db.setToken id token).botCredentials.find k = db.botCredentials.find k := by
  rw [find_setToken]
  cases hfind : db.botCredentials.find k with
  | none => rfl
  | some row =>
    have hid := (Table.find_eq_some_iff.mp hfind).2
    rw [Option.map_some, if_neg (hid ▸ hne)]

lemma find_encryptCredential_of_ne {k : Int} (hne : k ≠ row.id)
    (hok : migrator.encryptCredential key db row = .ok after) :
    after.botCredentials.find k = db.botCredentials.find k := by
  rcases encryptCredential_cases hok with ⟨-, rfl⟩ | ⟨blob, -, -, rfl⟩
  · rfl
  · exact find_setToken_of_ne hne

lemma find_encryptCredentials_of_not_mem {k : Int} (hnot : k ∉ rows.map CredentialRecord.id)
    (hok : migrator.encryptCredentials key rows db = .ok after) :
    after.botCredentials.find k = db.botCredentials.find k := by
  induction rows generalizing db with
  | nil =>
    cases hok
    rfl
  | cons first rest ih =>
    obtain ⟨middle, hfirst, hrest⟩ := encryptCredentials_cons.mp hok
    obtain ⟨hne, hother⟩ := not_or.mp (List.mem_cons.not.mp hnot)
    rw [ih hother hrest, find_encryptCredential_of_ne hne hfirst]

lemma find_encryptCredentials (hkeyed : Table.Keyed CredentialRecord.id rows)
    (hrow : row ∈ rows) (hfind : db.botCredentials.find row.id = some row)
    (hplain : (migrator.cipher.decryptToken row.token key).isOk = false)
    (hok : migrator.encryptCredentials key rows db = .ok after) :
    ∃ blob, migrator.cipher.encryptToken (migrator.nonce row.id) row.token key = .ok blob ∧
      after.botCredentials.find row.id = some { row with token := blob } := by
  induction rows generalizing db with
  | nil => exact absurd hrow List.not_mem_nil
  | cons first rest ih =>
    obtain ⟨middle, hfirst, hrest⟩ := encryptCredentials_cons.mp hok
    obtain ⟨hnot, hkeyed⟩ := List.nodup_cons.mp hkeyed
    rcases List.mem_cons.mp hrow with rfl | hmem
    · rw [find_encryptCredentials_of_not_mem hnot hrest]
      rcases encryptCredential_cases hfirst with
        ⟨hread, -⟩ | ⟨blob, hblob, -, rfl⟩
      · simp [hplain] at hread
      · refine ⟨blob, hblob, ?_⟩
        rw [find_setToken, hfind, Option.map_some, if_pos rfl]
    · have hne : row.id ≠ first.id :=
        fun heq => hnot (heq ▸ List.mem_map_of_mem hmem)
      apply ih hkeyed hmem _ hrest
      rw [find_encryptCredential_of_ne hne hfirst, hfind]

end Credentials

section Whole

/-- The version is recorded in every case. -/
def claimed (db : Database) : Database :=
  { db with versions := 8 :: db.versions }

/-- There is nothing to convert: no client, or the first one is hashed. -/
def Skips (migrator : Migrator Key Nonce) (db : Database) : Prop :=
  ∀ client, migrator.firstClient db = some client → isVtokenHash client.vtoken = true

lemma not_skips_iff :
    ¬ migrator.Skips db ↔ ∃ client, migrator.firstClient db = some client ∧
        isVtokenHash client.vtoken = false := by
  simp [Skips]

/-- The new tokens. -/
def newVtoken (migrator : Migrator Key Nonce) (db : Database) : String → String :=
  Table.relabel migrator.digest.hashVtoken (migrator.order db.vtokensToHash)

lemma tryClaimMigration_of_not_mem (hversion : 8 ∉ db.versions) :
    db.tryClaimMigration 8 = (true, claimed db) :=
  if_neg hversion

lemma migrateToV8Tx_of_skips (hversion : 8 ∉ db.versions) (hskips : migrator.Skips db) :
    migrator.migrateToV8Tx db = .ok (claimed db) := by
  rw [migrateToV8Tx, tryClaimMigration_of_not_mem hversion]
  dsimp only
  cases hfirst : migrator.firstClient (claimed db) with
  | none => rfl
  | some client => exact if_pos (hskips client hfirst)

lemma migrateToV8Tx_of_not_skips (hversion : 8 ∉ db.versions) (hconverts : ¬ migrator.Skips db) :
    migrator.migrateToV8Tx db = migrator.convert (claimed db) := by
  obtain ⟨client, hfirst, hplain⟩ := not_skips_iff.mp hconverts
  rw [migrateToV8Tx, tryClaimMigration_of_not_mem hversion]
  dsimp only
  have hclaimed : migrator.firstClient (claimed db) = some client := hfirst
  rw [hclaimed]
  exact if_neg (hplain ▸ Bool.false_ne_true)

/-- A conversion has a key, replaces all tokens and then encrypts. -/
lemma convert_eq_ok_iff :
    migrator.convert db = .ok after ↔ ∃ key middle, migrator.masterKey = .ok key ∧
        Database.Renamed (migrator.newVtoken db) db middle ∧
        migrator.encryptCredentials key db.botCredentials.rows middle = .ok after := by
  have hplain : ∀ vtoken ∈ migrator.order db.vtokensToHash,
      isVtokenHash vtoken = false := fun vtoken hmem =>
    Database.isVtokenHash_of_mem_vtokensToHash ((migrator.order_perm _).mem_iff.mp hmem)
  have hrenamed := fun middle =>
    @hashVtokens_eq_some_iff Key Nonce migrator db middle _ hplain
  unfold convert
  cases migrator.masterKey with
  | error e =>
    apply iff_of_false
    · intro hok
      cases hok
    · rintro ⟨key, middle, hkey, -⟩
      cases hkey
  | ok key =>
    cases hhash : migrator.hashVtokens (migrator.order db.vtokensToHash) db with
    | none =>
      apply iff_of_false
      · intro hok
        cases hok
      · rintro ⟨key, middle, -, hmiddle, -⟩
        have hsome := (hrenamed middle).mpr hmiddle
        simp [hhash] at hsome
    | some middle =>
      have hmiddle := (hrenamed middle).mp hhash
      have hrows : middle.botCredentials = db.botCredentials := by
        rw [hmiddle.2]
        rfl
      dsimp only
      rw [hrows]
      constructor
      · exact fun hok => ⟨key, middle, rfl, hmiddle, hok⟩
      · rintro ⟨other, own, hother, hown, hok⟩
        have hsame := (hrenamed own).mpr hown
        rw [hhash] at hsame
        cases hother
        cases hsame
        exact hok

end Whole

section Loading

/-- Decryption inverts encryption. -/
def Inverts (migrator : Migrator Key Nonce) (key : Key) : Prop :=
  ∀ nonce plain blob, migrator.cipher.encryptToken nonce plain key = .ok blob →
    migrator.cipher.decryptToken blob key = .ok plain

lemma loadCredentials_eq {row : CredentialRecord} (hfind : db.botCredentials.find 1 = some row) :
    loadCredentials migrator.cipher (some key) db = (migrator.cipher.decryptToken row.token key).map
        fun token => some (token, row.baseUrl) := by
  rw [loadCredentials, hfind]
  dsimp only
  cases migrator.cipher.decryptToken row.token key <;> rfl

/-- A plaintext bot token can be read after the migration exactly if the client
that is looked at first has a plaintext token too. -/
theorem loadCredentials_migrate_iff {row : CredentialRecord}
    (hversion : 8 ∉ db.versions) (hkey : migrator.masterKey = .ok key)
    (hinverts : migrator.Inverts key) (hrow : db.botCredentials.find 1 = some row)
    (hplain : (migrator.cipher.decryptToken row.token key).isOk = false)
    (hok : migrator.migrateToV8Tx db = .ok after) :
    loadCredentials migrator.cipher (some key) after = .ok (some (row.token, row.baseUrl)) ↔
      ∃ client, migrator.firstClient db = some client ∧ isVtokenHash client.vtoken = false := by
  rw [← not_skips_iff]
  by_cases hskips : migrator.Skips db
  · rw [migrateToV8Tx_of_skips hversion hskips] at hok
    cases hok
    have hfind : (claimed db).botCredentials.find 1 = some row := hrow
    rw [loadCredentials_eq hfind]
    apply iff_of_false _ (not_not_intro hskips)
    intro hload
    cases hread : migrator.cipher.decryptToken row.token key with
    | ok token =>
      rw [hread] at hplain
      cases hplain
    | error e =>
      rw [hread] at hload
      cases hload
  · apply iff_of_true _ hskips
    rw [migrateToV8Tx_of_not_skips hversion hskips] at hok
    obtain ⟨own, middle, hown, hrenamed, hsealed⟩ := convert_eq_ok_iff.mp hok
    have hsame := Except.ok.inj (hown.symm.trans hkey)
    rw [hsame] at hsealed
    obtain ⟨hmem, hid⟩ := Table.find_eq_some_iff.mp hrow
    have hfind : middle.botCredentials.find row.id = some row := by
      rw [hrenamed.2, hid]
      exact hrow
    obtain ⟨blob, hblob, hstored⟩ := find_encryptCredentials
      db.botCredentials.valid hmem hfind hplain hsealed
    rw [hid] at hstored
    rw [loadCredentials_eq hstored, hinverts _ _ _ hblob]
    rfl

namespace Sample

/-- A digest of short texts, and a cipher with a mark in front. -/
def plain : Migrator Unit Unit where
  digest :=
    { sha256 := fun bytes => (bytes ++ List.replicate 32 0).take 32
      length_sha256 := by simp }
  cipher :=
    { encryptToken := fun _ token _ => .ok (String.ofList ('!' :: token.toList))
      decryptToken := fun blob _ =>
        match blob.toList with
        | '!' :: token => .ok (String.ofList token)
        | _ => .error "Decryption failed: bad key or corrupted data" }
  configured := some ()
  derived := .error "ILINK_HUB_MASTER_KEY is required"
  tie := 0
  order := id
  order_perm := List.Perm.refl
  nonce := fun _ => ()

lemma inverts_plain : plain.Inverts () := by
  intro nonce token blob hblob
  cases hblob
  simp [plain]

/-- One client, or none, and a bot token. -/
def database (clients : Table ClientRecord ClientRecord.Unique) : Database where
  versions := [1, 2, 3, 4, 5, 6, 7]
  clients := clients
  routingState := ⟨[], by decide⟩
  messages := ⟨[], by decide⟩
  activeSessions := ⟨[], by decide⟩
  backendSessions := ⟨[], by decide⟩
  botCredentials := ⟨[⟨1, "secret", "https://hub"⟩], by decide⟩

def oneClient : Table ClientRecord ClientRecord.Unique :=
  ⟨[⟨"vhub_a", "a"⟩], by decide⟩

def noClient : Table ClientRecord ClientRecord.Unique :=
  ⟨[], by decide⟩

end Sample

open Sample

theorem loadCredentials_migrate_oneClient :
    ∃ after, plain.migrateToV8Tx (database oneClient) = .ok after ∧
      loadCredentials plain.cipher (some ()) after =
        .ok (some ("secret", "https://hub")) := by
  have hok : (plain.migrateToV8Tx
      (database oneClient)).isOk = true := by decide +kernel
  cases hafter : plain.migrateToV8Tx (database oneClient) with
  | error e =>
    rw [hafter] at hok
    cases hok
  | ok after =>
    refine ⟨after, rfl, ?_⟩
    apply (loadCredentials_migrate_iff (by decide) rfl inverts_plain
      rfl (by decide) hafter).mpr
    exact ⟨⟨"vhub_a", "a"⟩, by decide, by decide⟩

/-- Without a client the bot token stays as it is, and cannot be read. -/
theorem loadCredentials_migrate_noClient :
    8 ∉ (database noClient).versions ∧
      plain.masterKey = .ok () ∧ plain.Inverts () ∧
      (plain.cipher.decryptToken "secret" ()).isOk = false ∧
      ∃ after, plain.migrateToV8Tx (database noClient) = .ok after ∧
        loadCredentials plain.cipher (some ()) after =
          .error "Decryption failed: bad key or corrupted data" := by
  have hskips : plain.Skips (database noClient) := by
    intro client hfirst
    cases hfirst
  refine ⟨by decide, rfl, inverts_plain, by decide, _,
    migrateToV8Tx_of_skips (by decide) hskips, ?_⟩
  rfl

end Loading

end Migrator

end IlinkHub
