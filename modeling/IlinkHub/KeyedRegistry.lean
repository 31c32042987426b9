/-
The operations that change the client registry (`hub/registry.rs`).  The two
maps of a registry index the same clients; the structure carries this, so every
operation shows once that it keeps the maps together.
-/
import IlinkHub.Query
import IlinkHub.Registry

namespace IlinkHub

open Query ClientRegistry

/-- A registry whose clients stand under their own token and name. -/
structure KeyedRegistry extends ClientRegistry where
  keyed : ∀ {vtoken client}, byVtoken.lookup vtoken = some client → client.vtoken = vtoken
  named : ∀ {name vtoken}, byName.lookup name = some vtoken ↔
    ∃ client, byVtoken.lookup vtoken = some client ∧ client.name = name

/-- A client as a registration creates it. -/
def ClientInfo.withHashedVtoken (name : String)
    (label description : Option String) (vtokenHash : String) : ClientInfo :=
  { name := name, vtoken := vtokenHash, label := label,
    description := description }

inductive UpdateClientError where
  | notFound
  | nameTaken
deriving Repr, DecidableEq

namespace KeyedRegistry

def new : KeyedRegistry where
  toClientRegistry := .empty
  keyed := by simp [empty]
  named := by simp [empty]

variable (registry : KeyedRegistry)

def Registered (vtoken : String) : Prop :=
  (registry.byVtoken.lookup vtoken).isSome = true
deriving Decidable

variable {name vtoken own drawn : String} {client : ClientInfo}
  {label description : Option String} {next : KeyedRegistry}

lemma name_of_lookup (hname : registry.byName.lookup name = some vtoken)
    (hclient : registry.byVtoken.lookup vtoken = some client) : client.name = name := by
  obtain ⟨own, hown, hsame⟩ := registry.named.mp hname
  rwa [Option.some.inj (hclient.symm.trans hown)]

/-- A change of one client that keeps its token and name. -/
def adjust (vtoken : String) (f : ClientInfo → ClientInfo)
    (hvtoken : ∀ client, (f client).vtoken = client.vtoken)
    (hname : ∀ client, (f client).name = client.name) : KeyedRegistry where
  byVtoken :=
    match registry.byVtoken.lookup vtoken with
    | some client => registry.byVtoken.insert vtoken (f client)
    | none => registry.byVtoken
  byName := registry.byName
  keyed := by
    intro other client hclient
    split at hclient
    · next own hown =>
      rw [lookup_insert] at hclient
      split at hclient
      · next hother =>
        rw [← Option.some.inj hclient, hvtoken, registry.keyed hown, hother]
      · exact registry.keyed hclient
    · exact registry.keyed hclient
  named := by
    intro name other
    rw [registry.named]
    split
    · next own hown =>
      rw [lookup_insert]
      split
      · next hother =>
        subst hother
        simp [hown, hname]
      · rfl
    · rfl

/-- A client under a new name and a new token. -/
def insertClient (client : ClientInfo) (hvtoken : registry.byVtoken.lookup client.vtoken = none)
    (hname : registry.byName.lookup client.name = none) : KeyedRegistry where
  byVtoken := registry.byVtoken.insert client.vtoken client
  byName := registry.byName.insert client.name client.vtoken
  keyed := by
    intro vtoken own hown
    rw [lookup_insert] at hown
    split at hown
    · next hsame => rw [← Option.some.inj hown, hsame]
    · exact registry.keyed hown
  named := by
    intro name vtoken
    rw [lookup_insert, lookup_insert]
    by_cases hsame : vtoken = client.vtoken
    · subst hsame
      have hfresh : registry.byName.lookup name ≠ some client.vtoken := by
        intro hown
        obtain ⟨own, hown, -⟩ := registry.named.mp hown
        rw [hvtoken] at hown
        cases hown
      by_cases heq : name = client.name
      · simp [heq]
      · simp [heq, Ne.symm heq, hfresh]
    · rw [if_neg hsame, ← registry.named]
      split
      · next heq =>
        subst heq
        simp [hname, Ne.symm hsame]
      · rfl

/-- The name gives up its client. -/
def removeNamed (name vtoken : String)
    (hnamed : registry.byName.lookup name = some vtoken) : KeyedRegistry where
  byVtoken := registry.byVtoken.erase vtoken
  byName := registry.byName.erase name
  keyed := by
    intro other client hclient
    rw [lookup_erase] at hclient
    split at hclient
    · cases hclient
    · exact registry.keyed hclient
  named := by
    intro other own
    obtain ⟨client, hclient, rfl⟩ := registry.named.mp hnamed
    rw [lookup_erase, lookup_erase]
    by_cases hown : own = vtoken
    · subst hown
      rw [if_pos rfl]
      split
      · simp
      · next hother =>
        rw [registry.named, hclient]
        simp [Ne.symm hother]
    · rw [if_neg hown, ← registry.named]
      split
      · next hother =>
        subst hother
        simp [hnamed, Ne.symm hown]
      · rfl

/-- Registration under a name.  A known name keeps its token and its client is
online again; the flag tells a new client.  `drawn` is the hash of the token that
is drawn for it. -/
def register (name : String) (label description : Option String)
    (drawn : String) (hdrawn : registry.byVtoken.lookup drawn = none) :
    String × Bool × KeyedRegistry :=
  match hname : registry.byName.lookup name with
  | some existing =>
    (existing, false, registry.adjust existing (fun client => { client with
        label := label.or client.label
        description := description.or client.description
        online := true })
      (fun _ => rfl) (fun _ => rfl))
  | none =>
    (drawn, true, registry.insertClient
      (.withHashedVtoken name label description drawn) hdrawn hname)

/-- Registration after a confirmed pairing; `none` is a name that is taken. -/
def registerConfirmed (name : String) (label description : Option String) (vtokenHash : String)
    (hdrawn : registry.byVtoken.lookup vtokenHash = none) : Option KeyedRegistry :=
  match hname : registry.byName.lookup name with
  | some _ => none
  | none => some (registry.insertClient
      (.withHashedVtoken name label description vtokenHash) hdrawn hname)

/-- The client goes on under another token, or under another name. -/
def replaceClient (name vtoken : String) (client : ClientInfo)
    (hnamed : registry.byName.lookup name = some vtoken)
    (hvtoken : client.vtoken = vtoken ∨ registry.byVtoken.lookup client.vtoken = none)
    (hname : client.name = name ∨ registry.byName.lookup client.name = none) : KeyedRegistry :=
  (registry.removeNamed name vtoken hnamed).insertClient client (by
      rw [removeNamed, lookup_erase]
      rcases hvtoken with hsame | hfresh
      · rw [if_pos hsame]
      · rw [hfresh, ite_self])
    (by
      rw [removeNamed, lookup_erase]
      rcases hname with hsame | hfresh
      · rw [if_pos hsame]
      · rw [hfresh, ite_self])

/-- The client of the name gets a new token and is offline with it; the result
has the old token. -/
def rotateVtoken (name drawn : String) (hdrawn : registry.byVtoken.lookup drawn = none) :
    Option (String × KeyedRegistry) :=
  match hname : registry.byName.lookup name with
  | none => none
  | some oldHash =>
    match hclient : registry.byVtoken.lookup oldHash with
    | none => none
    | some client =>
      some (oldHash, registry.replaceClient name oldHash
        { client with vtoken := drawn, online := false } hname
        (.inr hdrawn)
        (.inl (show client.name = name from
          registry.name_of_lookup hname hclient)))

def remove (name : String) : Bool × KeyedRegistry :=
  match hname : registry.byName.lookup name with
  | some vtoken => (true, registry.removeNamed name vtoken hname)
  | none => (false, registry)

/-- A new name and label for a client; the result has its token. -/
def updateClient (oldName newName : String) (label : Option String) :
    Except UpdateClientError (String × KeyedRegistry) :=
  match hold : registry.byName.lookup oldName with
  | none => .error .notFound
  | some vtoken =>
    if newName = oldName then
      .ok (vtoken, registry.adjust vtoken
        (fun client => { client with label := label.or client.label })
        (fun _ => rfl) (fun _ => rfl))
    else
      match hnew : registry.byName.lookup newName with
      | some _ => .error .nameTaken
      | none =>
        match hclient : registry.byVtoken.lookup vtoken with
        | none => .error .notFound
        | some client =>
          .ok (vtoken, registry.replaceClient oldName vtoken { client with
              name := newName, label := label.or client.label } hold
            (.inl (show client.vtoken = vtoken from
              registry.keyed hclient))
            (.inr hnew))

def setPersona (vtoken : String) (personaName personaEmoji : Option String) : KeyedRegistry :=
  registry.adjust vtoken (fun client => { client with
      personaName := personaName.or client.personaName
      personaEmoji := personaEmoji.or client.personaEmoji })
    (fun _ => rfl) (fun _ => rfl)

def markOnline (vtoken : String) : KeyedRegistry :=
  registry.adjust vtoken (fun client => { client with online := true })
    (fun _ => rfl) (fun _ => rfl)

def markOffline (vtoken : String) : KeyedRegistry :=
  registry.adjust vtoken (fun client => { client with online := false })
    (fun _ => rfl) (fun _ => rfl)

/-- Another client as the default, one that is online first.  The map has no
order, so `tie` picks it. -/
def pickDefaultAfterRemove (removed : String) (tie : Nat) : Option String :=
  let pick := fun clients : List ClientInfo =>
    limitOne (fun _ _ => true) tie (clients.filter fun client => client.vtoken ≠ removed)
  ((pick registry.onlineClients).or (pick registry.values)).map ClientInfo.vtoken

variable {registry} {hdrawn : registry.byVtoken.lookup drawn = none} {f : ClientInfo → ClientInfo}

lemma mem_values_iff :
    client ∈ registry.values ↔ registry.byVtoken.lookup client.vtoken = some client := by
  rw [values, List.mem_map, lookup_eq_some_iff]
  constructor
  · rintro ⟨⟨vtoken, own⟩, hentry, rfl⟩
    have hkey := registry.keyed (lookup_eq_some_iff.mpr hentry)
    rwa [hkey]
  · intro hentry
    exact ⟨_, hentry, rfl⟩

lemma registered_of_mem_values (hclient : client ∈ registry.values) :
    registry.Registered client.vtoken :=
  Option.isSome_of_mem (mem_values_iff.mp hclient)

lemma registered_iff_named :
    registry.Registered vtoken ↔ ∃ name, registry.byName.lookup name = some vtoken := by
  constructor
  · intro hregistered
    obtain ⟨client, hclient⟩ := Option.isSome_iff_exists.mp hregistered
    exact ⟨client.name, registry.named.mpr ⟨client, hclient, rfl⟩⟩
  · rintro ⟨name, hname⟩
    obtain ⟨client, hclient, -⟩ := registry.named.mp hname
    exact Option.isSome_of_mem hclient

lemma mem_values_of_getByName (hclient : registry.getByName name = some client) :
    client ∈ registry.values := by
  obtain ⟨vtoken, -, hlookup⟩ := Option.bind_eq_some_iff.mp hclient
  rw [mem_values_iff, registry.keyed hlookup]
  exact hlookup

lemma getByName_eq_some_iff :
    registry.getByName name = some client ↔ client ∈ registry.values ∧ client.name = name := by
  constructor
  · intro hclient
    obtain ⟨vtoken, hname, hlookup⟩ := Option.bind_eq_some_iff.mp hclient
    exact ⟨mem_values_of_getByName hclient, registry.name_of_lookup hname hlookup⟩
  · rintro ⟨hmem, rfl⟩
    have hlookup := mem_values_iff.mp hmem
    exact Option.bind_eq_some_iff.mpr
      ⟨client.vtoken, registry.named.mpr ⟨client, hlookup, rfl⟩, hlookup⟩

lemma eq_of_name_eq {left right : ClientInfo} (hleft : left ∈ registry.values)
    (hright : right ∈ registry.values) (hname : left.name = right.name) : left = right := by
  have hfound := getByName_eq_some_iff.mpr ⟨hleft, hname⟩
  rw [getByName_eq_some_iff.mpr ⟨hright, rfl⟩] at hfound
  exact (Option.some.inj hfound).symm

lemma nodup_values : registry.values.Nodup := by
  have hkeys : (registry.values.map ClientInfo.vtoken) = registry.byVtoken.keys := by
    rw [values, List.map_map, AList.keys]
    apply List.map_congr_left
    rintro ⟨vtoken, client⟩ hentry
    exact registry.keyed (lookup_eq_some_iff.mpr hentry)
  apply List.Nodup.of_map ClientInfo.vtoken
  rw [hkeys]
  exact registry.byVtoken.keys_nodup

/-- An alias leads to a client, and to one of the allowed clients only. -/
lemma of_getByAliasIn {allowed : Option (List String)}
    (hclient : registry.getByAliasIn name allowed = some client) :
    client ∈ registry.values ∧ allowed.all (fun names => client.name ∈ names) = true := by
  unfold getByAliasIn at hclient
  split at hclient
  · next own hown =>
    split at hclient
    · next hallowed =>
      cases hclient
      exact ⟨mem_values_of_getByName hown, hallowed⟩
    · cases hclient
  · split at hclient
    · cases hclient
    · cases hclient
    · have hmem := (List.mem_insertionSort _).mp (List.mem_of_getElem? hclient)
      cases allowed with
      | none => exact ⟨hmem, rfl⟩
      | some names => exact List.mem_filter.mp hmem

lemma lookup_adjust {hvtoken : ∀ client, (f client).vtoken = client.vtoken}
    {hname : ∀ client, (f client).name = client.name} :
    (registry.adjust own f hvtoken hname).byVtoken.lookup vtoken =
      if vtoken = own then (registry.byVtoken.lookup own).map f
      else registry.byVtoken.lookup vtoken := by
  have hbyVtoken : (registry.adjust own f hvtoken hname).byVtoken =
      match registry.byVtoken.lookup own with
      | some client => registry.byVtoken.insert own (f client)
      | none => registry.byVtoken :=
    rfl
  rw [hbyVtoken]
  cases hclient : registry.byVtoken.lookup own with
  | some client =>
    rw [lookup_insert]
    rfl
  | none =>
    by_cases hown : vtoken = own
    · rw [if_pos hown, hown]
      exact hclient
    · rw [if_neg hown]

lemma registered_adjust {hvtoken : ∀ client, (f client).vtoken = client.vtoken}
    {hname : ∀ client, (f client).name = client.name} :
    (registry.adjust own f hvtoken hname).Registered vtoken ↔
      registry.Registered vtoken := by
  rw [registered_iff_named, registered_iff_named]
  rfl

lemma registered_insertClient (hvtoken : registry.byVtoken.lookup client.vtoken = none)
    (hname : registry.byName.lookup client.name = none) :
    (registry.insertClient client hvtoken hname).Registered vtoken ↔
      vtoken = client.vtoken ∨ registry.Registered vtoken := by
  rw [Registered, insertClient, lookup_insert]
  split
  · next hsame => simp [hsame]
  · next hother =>
    rw [or_iff_right hother]
    rfl

lemma registered_removeNamed {hnamed : registry.byName.lookup name = some own} :
    (registry.removeNamed name own hnamed).Registered vtoken ↔
      vtoken ≠ own ∧ registry.Registered vtoken := by
  rw [Registered, removeNamed, lookup_erase]
  split
  · next hsame => simp [hsame]
  · next hother =>
    rw [and_iff_right hother]
    rfl

section Replace
variable {hnamed : registry.byName.lookup name = some own}
  {hvtoken : client.vtoken = own ∨ registry.byVtoken.lookup client.vtoken = none}
  {hname : client.name = name ∨ registry.byName.lookup client.name = none}

lemma registered_replaceClient :
    (registry.replaceClient name own client hnamed hvtoken hname).Registered vtoken ↔
      vtoken = client.vtoken ∨ vtoken ≠ own ∧ registry.Registered vtoken := by
  rw [replaceClient, registered_insertClient, registered_removeNamed]

lemma byVtoken_replaceClient :
    (registry.replaceClient name own client hnamed hvtoken hname).byVtoken =
      (registry.byVtoken.erase own).insert client.vtoken client :=
  rfl

lemma byName_replaceClient :
    (registry.replaceClient name own client hnamed hvtoken hname).byName =
      (registry.byName.erase name).insert client.name client.vtoken :=
  rfl

end Replace

lemma registered_register_self (hdrawn : registry.byVtoken.lookup drawn = none) :
    (registry.register name label description drawn hdrawn).2.2.Registered
      (registry.register name label description drawn hdrawn).1 := by
  unfold register
  split
  · next existing hname =>
    exact registered_iff_named.mpr ⟨name, hname⟩
  · next hname => exact (registered_insertClient hdrawn hname).mpr (.inl rfl)

lemma registered_of_register (hdrawn : registry.byVtoken.lookup drawn = none)
    (hregistered : (registry.register name label description drawn hdrawn).2.2.Registered vtoken) :
    vtoken = drawn ∨ registry.Registered vtoken := by
  unfold register at hregistered
  split at hregistered
  · rw [registered_adjust] at hregistered
    exact .inr hregistered
  · next hname => exact (registered_insertClient hdrawn hname).mp hregistered

lemma registered_register_of_registered (hdrawn : registry.byVtoken.lookup drawn = none)
    (hregistered : registry.Registered vtoken) :
    (registry.register name label description drawn hdrawn).2.2.Registered vtoken := by
  unfold register
  split
  · rw [registered_adjust]
    exact hregistered
  · next hname =>
    exact (registered_insertClient hdrawn hname).mpr (.inr hregistered)

lemma registered_registerConfirmed
    (hnext : registry.registerConfirmed name label description drawn hdrawn = some next) :
    next.Registered vtoken ↔ vtoken = drawn ∨ registry.Registered vtoken := by
  unfold registerConfirmed at hnext
  split at hnext
  · cases hnext
  · next hname =>
    cases hnext
    exact registered_insertClient hdrawn hname

lemma registered_rotateVtoken {oldHash : String}
    (hnext : registry.rotateVtoken name drawn hdrawn = some (oldHash, next)) :
    registry.Registered oldHash ∧ (next.Registered vtoken ↔
        vtoken = drawn ∨ vtoken ≠ oldHash ∧ registry.Registered vtoken) := by
  unfold rotateVtoken at hnext
  split at hnext
  · cases hnext
  · next own hname =>
    split at hnext
    · cases hnext
    · cases hnext
      refine ⟨registered_iff_named.mpr ⟨name, hname⟩, ?_⟩
      rw [registered_replaceClient]

lemma registered_remove :
    (registry.remove name).2.Registered vtoken ↔ registry.byName.lookup name ≠ some vtoken ∧
        registry.Registered vtoken := by
  unfold remove
  split
  · next own hname =>
    rw [registered_removeNamed, hname, ne_eq, ne_eq, Option.some.injEq, eq_comm]
  · next hname => simp [hname]

lemma registered_of_remove (hregistered : (registry.remove name).2.Registered vtoken) :
    registry.Registered vtoken :=
  (registered_remove.mp hregistered).2

lemma registered_updateClient {oldName newName : String}
    (hnext : registry.updateClient oldName newName label = .ok (own, next)) :
    next.Registered vtoken ↔ registry.Registered vtoken := by
  unfold updateClient at hnext
  split at hnext
  · cases hnext
  · next found hfound =>
    split at hnext
    · obtain ⟨rfl, rfl⟩ := Prod.mk.inj (Except.ok.inj hnext)
      exact registered_adjust
    · split at hnext
      · cases hnext
      · split at hnext
        · cases hnext
        · next client hclient =>
          obtain ⟨rfl, rfl⟩ := Prod.mk.inj (Except.ok.inj hnext)
          rw [registered_replaceClient, registry.keyed hclient]
          by_cases hsame : vtoken = found
          · subst hsame
            simp [Registered, hclient]
          · simp [hsame]

/-- The new default is another client. -/
lemma of_pickDefaultAfterRemove {removed : String} {tie : Nat}
    (hpick : registry.pickDefaultAfterRemove removed tie = some vtoken) :
    vtoken ≠ removed ∧ registry.Registered vtoken := by
  obtain ⟨client, hclient, rfl⟩ := Option.map_eq_some_iff.mp hpick
  have hmem : client ∈ registry.values.filter fun client => client.vtoken ≠ removed := by
    rcases Option.or_eq_some_iff.mp hclient with honline | ⟨-, hany⟩
    · obtain ⟨hmem, hother⟩ :=
        List.mem_filter.mp (of_limitOne honline).1
      exact List.mem_filter.mpr ⟨(List.mem_filter.mp hmem).1, hother⟩
    · exact (of_limitOne hany).1
  obtain ⟨hvalues, hother⟩ := List.mem_filter.mp hmem
  exact ⟨of_decide_eq_true hother, registered_of_mem_values hvalues⟩

end KeyedRegistry

end IlinkHub
