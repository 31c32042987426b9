/-
The operations of the client registry on its two maps as they are written
(`hub/registry.rs`), and that any sequence of them keeps the maps inverse to each
other.
-/
import IlinkHub.KeyedRegistry
import IlinkHub.Transition

namespace IlinkHub

open KeyedRegistry Transition

namespace ClientRegistry

variable (registry : ClientRegistry)

/-- A change of one entry in place. -/
def modify (vtoken : String) (f : ClientInfo → ClientInfo) : ClientRegistry :=
  match registry.byVtoken.lookup vtoken with
  | some info =>
    { registry with byVtoken := registry.byVtoken.insert vtoken (f info) }
  | none => registry

/-- An entry into both maps. -/
def store (info : ClientInfo) : ClientRegistry where
  byVtoken := registry.byVtoken.insert info.vtoken info
  byName := registry.byName.insert info.name info.vtoken

/-- The update of an entry whose name is registered again. -/
def refresh (label description : Option String) (info : ClientInfo) : ClientInfo :=
  { info with
    label := label.or info.label
    description := description.or info.description
    online := true }

def register (name : String) (label description : Option String)
    (drawn : String) : String × Bool × ClientRegistry :=
  match registry.byName.lookup name with
  | some existing =>
    (existing, false, registry.modify existing (refresh label description))
  | none =>
    (drawn, true, registry.store (.withHashedVtoken name label description drawn))

/-- The registration of the startup loader: a given hash is stored as it is. -/
def registerWithVtoken (name : String) (label description vtoken : Option String)
    (drawn : String) : String × Bool × ClientRegistry :=
  match registry.byName.lookup name with
  | some existing =>
    (existing, false, registry.modify existing (refresh label description))
  | none =>
    (vtoken.getD drawn, true, registry.store
        (.withHashedVtoken name label description (vtoken.getD drawn)))

def registerConfirmed (name : String) (label description : Option String)
    (vtokenHash : String) : Except UpdateClientError ClientRegistry :=
  if (registry.byName.lookup name).isSome then
    .error .nameTaken
  else
    .ok (registry.store (.withHashedVtoken name label description vtokenHash))

def updateMetadata (vtoken : String) (label description personaName personaEmoji : Option String) :
    ClientRegistry :=
  registry.modify vtoken fun info =>
    { info with
      label := label.or info.label
      description := description.or info.description
      personaName := personaName.or info.personaName
      personaEmoji := personaEmoji.or info.personaEmoji }

def setDescription (vtoken : String) (description : Option String) : ClientRegistry :=
  registry.modify vtoken fun info =>
    { info with description := description }

def markOnline (vtoken : String) : ClientRegistry :=
  registry.modify vtoken fun info =>
    { info with online := true }

def markOffline (vtoken : String) : ClientRegistry :=
  registry.modify vtoken fun info => { info with online := false }

def rotateVtoken (name drawn : String) : Option (String × ClientRegistry) :=
  (registry.byName.lookup name).bind fun oldHash =>
    (registry.byVtoken.lookup oldHash).map fun info =>
      (drawn,
        { byVtoken := (registry.byVtoken.erase oldHash).insert drawn
            { info with vtoken := drawn, online := false }
          byName := registry.byName.insert name drawn })

def remove (name : String) : Bool × ClientRegistry :=
  match registry.byName.lookup name with
  | some vtoken =>
    (true, ⟨registry.byVtoken.erase vtoken, registry.byName.erase name⟩)
  | none => (false, registry)

def updateClient (oldName newName : String) (label : Option String) :
    Except UpdateClientError (String × ClientRegistry) :=
  match registry.byName.lookup oldName with
  | none => .error .notFound
  | some vtoken =>
    if newName ≠ oldName ∧ (registry.byName.lookup newName).isSome then
      .error .nameTaken
    else
      match registry.byVtoken.lookup vtoken with
      | none => .error .notFound
      | some info =>
        if newName ≠ oldName then
          .ok (vtoken,
            { byVtoken := registry.byVtoken.insert vtoken
                { info with
                  name := newName, label := label.or info.label }
              byName :=
                (registry.byName.erase oldName).insert newName vtoken })
        else
          .ok (vtoken,
            { registry with
              byVtoken := registry.byVtoken.insert vtoken
                { info with label := label.or info.label } })

/-- The two maps are inverse to each other, and clients stand under their own
token. -/
structure Consistent : Prop where
  keyed : ∀ {vtoken client}, registry.byVtoken.lookup vtoken = some client → client.vtoken = vtoken
  named : ∀ {name vtoken}, registry.byName.lookup name = some vtoken ↔
    ∃ client, registry.byVtoken.lookup vtoken = some client ∧ client.name = name

/-- The same entries under the same keys. -/
structure Same (left right : ClientRegistry) : Prop where
  byVtoken : ∀ vtoken, left.byVtoken.lookup vtoken = right.byVtoken.lookup vtoken
  byName : ∀ name, left.byName.lookup name = right.byName.lookup name

variable {registry} {left right : ClientRegistry} {f : ClientInfo → ClientInfo}

lemma Same.refl (registry : ClientRegistry) : Same registry registry :=
  ⟨fun _ => rfl, fun _ => rfl⟩

lemma lookup_modify {vtoken own : String} :
    (registry.modify own f).byVtoken.lookup vtoken =
      if vtoken = own then (registry.byVtoken.lookup own).map f
      else registry.byVtoken.lookup vtoken := by
  rw [modify]
  split
  · next info hinfo =>
    rw [Query.lookup_insert, hinfo]
    rfl
  · next hnone =>
    split
    · next hown => rw [hown, hnone, Option.map_none]
    · rfl

lemma byName_modify {own : String} : (registry.modify own f).byName = registry.byName := by
  rw [modify]
  split <;> rfl

lemma Consistent.of_same (hleft : left.Consistent) (hsame : Same left right) :
    right.Consistent := by
  constructor
  · intro vtoken client hclient
    rw [← hsame.byVtoken] at hclient
    exact hleft.keyed hclient
  · intro name vtoken
    rw [← hsame.byVtoken, ← hsame.byName]
    exact hleft.named

/-- A registry with inverse maps is one that carries them. -/
lemma Consistent.exists_keyed (hregistry : registry.Consistent) :
    ∃ keyed : KeyedRegistry, keyed.toClientRegistry = registry :=
  ⟨⟨registry, hregistry.keyed, hregistry.named⟩, rfl⟩

end ClientRegistry

namespace KeyedRegistry

variable {registry : KeyedRegistry}

lemma consistent (registry : KeyedRegistry) : registry.toClientRegistry.Consistent :=
  ⟨registry.keyed, registry.named⟩

lemma nodup_map_name_values : (registry.values.map ClientInfo.name).Nodup := by
  apply nodup_values.map_on
  intro left hleft right hright hname
  exact eq_of_name_eq hleft hright hname

lemma mem_keys_byName_iff {name : String} :
    name ∈ registry.byName.keys ↔ name ∈ registry.values.map ClientInfo.name := by
  rw [AList.mem_keys.symm, ← AList.lookup_isSome, Option.isSome_iff_exists, List.mem_map]
  constructor
  · rintro ⟨vtoken, hname⟩
    obtain ⟨client, hclient, hown⟩ := registry.named.mp hname
    refine ⟨client, ?_, hown⟩
    rw [mem_values_iff, registry.keyed hclient]
    exact hclient
  · rintro ⟨client, hclient, hown⟩
    exact ⟨client.vtoken, registry.named.mpr ⟨client, mem_values_iff.mp hclient, hown⟩⟩

lemma length_entries (registry : KeyedRegistry) :
    registry.byName.entries.length = registry.byVtoken.entries.length := by
  have hperm := (List.perm_ext_iff_of_nodup registry.byName.keys_nodup
      nodup_map_name_values).mpr fun _ => mem_keys_byName_iff
  have hlength := hperm.length_eq
  rwa [List.length_map, ClientRegistry.values, List.length_map, AList.keys,
    List.keys, List.length_map] at hlength

lemma same_adjust {vtoken : String} {f : ClientInfo → ClientInfo}
    (hvtoken : ∀ client, (f client).vtoken = client.vtoken)
    (hname : ∀ client, (f client).name = client.name) :
    (registry.adjust vtoken f hvtoken hname).Same (registry.modify vtoken f) := by
  constructor
  · intro other
    rw [lookup_adjust, ClientRegistry.lookup_modify]
  · intro other
    rw [ClientRegistry.byName_modify]
    rfl

lemma consistent_modify (registry : KeyedRegistry) (vtoken : String) {f : ClientInfo → ClientInfo}
    (hvtoken : ∀ client, (f client).vtoken = client.vtoken)
    (hname : ∀ client, (f client).name = client.name) : (registry.modify vtoken f).Consistent :=
  (registry.adjust vtoken f hvtoken hname).consistent.of_same (same_adjust hvtoken hname)

lemma same_register {name drawn : String} {label description : Option String}
    (hdrawn : registry.byVtoken.lookup drawn = none) :
    let keyed := registry.register name label description drawn hdrawn
    let plain := registry.toClientRegistry.register name label description drawn
    keyed.1 = plain.1 ∧ keyed.2.1 = plain.2.1 ∧
      keyed.2.2.Same plain.2.2 := by
  unfold register ClientRegistry.register
  split
  · next existing hname =>
    simp only [hname]
    exact ⟨trivial, trivial, same_adjust _ _⟩
  · next hname =>
    simp only [hname]
    exact ⟨trivial, trivial, .refl _⟩

lemma same_registerConfirmed (name : String)
    (label description : Option String) {vtokenHash : String}
    (hdrawn : registry.byVtoken.lookup vtokenHash = none) :
    Option.Rel (fun keyed plain => keyed.Same plain)
      (registry.registerConfirmed name label description vtokenHash hdrawn)
      (registry.toClientRegistry.registerConfirmed name label description vtokenHash).toOption := by
  unfold registerConfirmed ClientRegistry.registerConfirmed
  split
  · next hname =>
    simp only [hname]
    exact .none
  · next hname =>
    simp only [hname]
    exact .some (.refl _)

lemma same_remove (name : String) :
    (registry.remove name).1 = (registry.toClientRegistry.remove name).1 ∧
      (registry.remove name).2.Same (registry.toClientRegistry.remove name).2 := by
  unfold remove ClientRegistry.remove
  split
  · next hname =>
    simp only [hname]
    exact ⟨trivial, .refl _⟩
  · next hname =>
    simp only [hname]
    exact ⟨trivial, .refl _⟩

/-- The rotation takes the entry out and puts it back; its name only changes the
token it stands for. -/
lemma same_rotateVtoken (name : String) {drawn : String}
    (hdrawn : registry.byVtoken.lookup drawn = none) :
    Option.Rel (fun keyed plain => keyed.2.Same plain.2) (registry.rotateVtoken name drawn hdrawn)
      (registry.toClientRegistry.rotateVtoken name drawn) := by
  unfold rotateVtoken ClientRegistry.rotateVtoken
  split
  · next hname =>
    rw [hname]
    exact .none
  · next oldHash hname =>
    split
    · next hclient =>
      simp only [hname, Option.bind_some, hclient]
      exact .none
    · next client hclient =>
      simp only [hname, Option.bind_some, hclient]
      refine .some ⟨fun _ => rfl, fun other => ?_⟩
      have hown := registry.name_of_lookup hname hclient
      simp only [byName_replaceClient, Query.lookup_insert, hown]
      by_cases hother : other = name <;> simp [hother]

/-- The same outcome of an update. -/
def SameUpdate : Except UpdateClientError (String × KeyedRegistry) →
    Except UpdateClientError (String × ClientRegistry) → Prop
  | .ok keyed, .ok plain => keyed.1 = plain.1 ∧ keyed.2.Same plain.2
  | .error left, .error right => left = right
  | _, _ => False

lemma same_updateClient (oldName newName : String) (label : Option String) :
    SameUpdate (registry.updateClient oldName newName label)
      (registry.toClientRegistry.updateClient oldName newName label) := by
  unfold updateClient ClientRegistry.updateClient
  split
  · next hold =>
    simp only [hold]
    rfl
  · next vtoken hold =>
    obtain ⟨client, hclient, -⟩ := registry.named.mp hold
    have hkey := registry.keyed hclient
    split
    · next hsame =>
      have hmodify : (registry.adjust vtoken
          (fun client => { client with label := label.or client.label })
          (fun _ => rfl) (fun _ => rfl)).Same
          (registry.modify vtoken fun client =>
            { client with label := label.or client.label }) :=
        same_adjust _ _
      unfold ClientRegistry.modify at hmodify
      simp only [hclient] at hmodify
      simp only [hold, hclient, hsame, ne_eq]
      exact ⟨rfl, hmodify⟩
    · next hother =>
      split
      · next taken hnew =>
        simp only [hold, hnew, ne_eq, hother]
        rfl
      · next hnew =>
        split
        · next hnone =>
          simp [hclient] at hnone
        · next own hown =>
          obtain rfl := Option.some.inj (hclient.symm.trans hown)
          simp only [hold, hnew, hclient, ne_eq, hother]
          refine ⟨rfl, fun other => ?_, fun other => ?_⟩
          · simp only [byVtoken_replaceClient, Query.lookup_insert, hkey]
            by_cases hsame : other = vtoken <;> simp [hsame]
          · simp [byName_replaceClient, hkey]

end KeyedRegistry

/-- An operation with its arguments.  `drawn` is the hash of the token that is
generated for it. -/
inductive RegistryOp where
  | register (name : String) (label description : Option String) (drawn : String)
  | registerWithVtoken (name : String) (label description vtoken : Option String) (drawn : String)
  | registerConfirmed (name : String) (label description : Option String) (vtokenHash : String)
  | updateClient (oldName newName : String) (label : Option String)
  | updateMetadata (vtoken : String) (label description personaName personaEmoji : Option String)
  | setDescription (vtoken : String) (description : Option String)
  | rotateVtoken (name drawn : String)
  | remove (name : String)
  | markOnline (vtoken : String)
  | markOffline (vtoken : String)
deriving Repr, DecidableEq

/-- The token hash that is generated for the operation or given to it. -/
def RegistryOp.newHash : RegistryOp → Option String
  | .register _ _ _ drawn => some drawn
  | .registerWithVtoken _ _ _ vtoken drawn => some (vtoken.getD drawn)
  | .registerConfirmed _ _ _ vtokenHash => some vtokenHash
  | .rotateVtoken _ drawn => some drawn
  | _ => none

/-- The new hash is not in use. -/
def RegistryOp.Fresh (registry : ClientRegistry) (op : RegistryOp) : Prop :=
  ∀ hash ∈ op.newHash, registry.byVtoken.lookup hash = none
deriving Decidable

namespace ClientRegistry

/-- The registry after the operation; one that fails leaves it as it is. -/
def step (registry : ClientRegistry) : RegistryOp → ClientRegistry
  | .register name label description drawn =>
    (registry.register name label description drawn).2.2
  | .registerWithVtoken name label description vtoken drawn =>
    (registry.registerWithVtoken name label description vtoken drawn).2.2
  | .registerConfirmed name label description vtokenHash =>
    match registry.registerConfirmed name label description vtokenHash with
    | .ok next => next
    | .error _ => registry
  | .updateClient oldName newName label =>
    match registry.updateClient oldName newName label with
    | .ok (_, next) => next
    | .error _ => registry
  | .updateMetadata vtoken label description personaName personaEmoji =>
    registry.updateMetadata vtoken label description personaName personaEmoji
  | .setDescription vtoken description =>
    registry.setDescription vtoken description
  | .rotateVtoken name drawn =>
    match registry.rotateVtoken name drawn with
    | some (_, next) => next
    | none => registry
  | .remove name => (registry.remove name).2
  | .markOnline vtoken => registry.markOnline vtoken
  | .markOffline vtoken => registry.markOffline vtoken

lemma exists_of_rel_some {α β : Type} {r : α → β → Prop} {value : Option α} {related : β}
    (hrel : Option.Rel r value (some related)) : ∃ own, r own related := by
  cases hrel with
  | some hown => exact ⟨_, hown⟩

/-- Every operation keeps the maps inverse to each other. -/
lemma consistent_step {registry : ClientRegistry} {op : RegistryOp}
    (hregistry : registry.Consistent) (hfresh : op.Fresh registry) :
    (registry.step op).Consistent := by
  obtain ⟨keyed, rfl⟩ := hregistry.exists_keyed
  cases op with
  | register name label description drawn =>
    exact (keyed.register name label description drawn (hfresh drawn rfl)).2.2.consistent.of_same
        (same_register _).2.2
  | registerWithVtoken name label description vtoken drawn =>
    exact (keyed.register name label description (vtoken.getD drawn)
      (hfresh _ rfl)).2.2.consistent.of_same (same_register _).2.2
  | registerConfirmed name label description vtokenHash =>
    have hrel := same_registerConfirmed name label description (hfresh vtokenHash rfl)
    rw [step]
    split
    · next next hnext =>
      rw [hnext] at hrel
      obtain ⟨found, hsame⟩ := exists_of_rel_some hrel
      exact found.consistent.of_same hsame
    · exact hregistry
  | updateClient oldName newName label =>
    have hrel := keyed.same_updateClient oldName newName label
    rw [step]
    split
    · next own next hnext =>
      rw [hnext] at hrel
      cases hfound : keyed.updateClient oldName newName label with
      | ok found =>
        rw [hfound] at hrel
        exact found.2.consistent.of_same hrel.2
      | error problem =>
        rw [hfound] at hrel
        exact hrel.elim
    · exact hregistry
  | updateMetadata vtoken label description personaName personaEmoji =>
    exact keyed.consistent_modify vtoken (fun _ => rfl) (fun _ => rfl)
  | setDescription vtoken description =>
    exact keyed.consistent_modify vtoken (fun _ => rfl) (fun _ => rfl)
  | rotateVtoken name drawn =>
    have hrel := same_rotateVtoken name (hfresh drawn rfl)
    rw [step]
    split
    · next hash next hnext =>
      rw [hnext] at hrel
      obtain ⟨found, hsame⟩ := exists_of_rel_some hrel
      exact found.2.consistent.of_same hsame
    · exact hregistry
  | remove name =>
    exact (keyed.remove name).2.consistent.of_same (keyed.same_remove name).2
  | markOnline vtoken =>
    exact keyed.consistent_modify vtoken (fun _ => rfl) (fun _ => rfl)
  | markOffline vtoken =>
    exact keyed.consistent_modify vtoken (fun _ => rfl) (fun _ => rfl)

lemma consistent_run {ops : List RegistryOp} (hfresh : EveryStep step
      (fun registry op => op.Fresh registry) empty ops) : (run step empty ops).Consistent :=
  run_invariant_of_everyStep
    (fun _ _ => consistent_step) new.consistent hfresh

/-- After any operations with fresh tokens the maps of the registry are inverse
to each other, clients stand under their own token, and the maps have the same
size. -/
theorem maps_inverse {ops : List RegistryOp} {registry : ClientRegistry}
    (hfresh : EveryStep step (fun registry op => op.Fresh registry) empty ops)
    (hrun : run step empty ops = registry) :
    (∀ name vtoken, registry.byName.lookup name = some vtoken ↔
      ∃ client, registry.byVtoken.lookup vtoken = some client ∧ client.name = name) ∧
    (∀ vtoken client, registry.byVtoken.lookup vtoken = some client → client.vtoken = vtoken) ∧
    registry.byName.entries.length = registry.byVtoken.entries.length := by
  have hconsistent := consistent_run hfresh
  rw [hrun] at hconsistent
  obtain ⟨keyed, rfl⟩ := hconsistent.exists_keyed
  exact ⟨fun _ _ => keyed.named, fun _ _ => keyed.keyed, keyed.length_entries⟩

end ClientRegistry

/-- Every operation once: two clients, the first renamed and rotated, the second
removed. -/
def Sample.registryOps : List RegistryOp :=
  [.register "a" none none "h1", .registerWithVtoken "b" (some "B") none (some "h2") "unused",
    .registerConfirmed "c" none none "h3", .updateClient "a" "d" (some "D"),
    .updateMetadata "h1" none none (some "Dee") none,
    .setDescription "h2" (some "second"), .markOnline "h1",
    .rotateVtoken "d" "h4", .remove "b", .markOffline "h3"]

theorem ClientRegistry.maps_inverse_registryOps :
    ∃ registry : ClientRegistry, registry.byName.lookup "d" = some "h4" ∧
      registry.byName.entries.length = 2 ∧
      registry.byVtoken.entries.length = 2 := by
  refine ⟨run step empty Sample.registryOps, by decide +kernel, by decide +kernel, ?_⟩
  rw [← (maps_inverse (by decide +kernel) rfl).2.2]
  decide +kernel

end IlinkHub
