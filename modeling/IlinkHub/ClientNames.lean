/-
The operations of the client registry as the names show them: what stands under
each name afterwards.
-/
import IlinkHub.KeyedRegistry

namespace IlinkHub

open Function ClientRegistry

namespace KeyedRegistry

variable {registry next : KeyedRegistry} {name vtoken drawn : String}
  {label description : Option String} {info : ClientInfo}

lemma getByName_eq_none_iff :
    registry.getByName name = none ↔ registry.byName.lookup name = none := by
  constructor
  · intro hnone
    cases hname : registry.byName.lookup name with
    | none => rfl
    | some own =>
      obtain ⟨client, hclient, hown⟩ := registry.named.mp hname
      rw [getByName, hname] at hnone
      exact absurd (hnone.symm.trans hclient) (by simp)
  · intro hname
    rw [getByName, hname]
    rfl

lemma lookup_byName (hinfo : registry.getByName name = some info) :
    registry.byName.lookup name = some info.vtoken := by
  obtain ⟨hmem, rfl⟩ := getByName_eq_some_iff.mp hinfo
  exact registry.named.mpr ⟨info, mem_values_iff.mp hmem, rfl⟩

lemma getByName_of_lookup (hname : registry.byName.lookup name = some vtoken) :
    ∃ client, registry.getByName name = some client ∧ client.vtoken = vtoken := by
  obtain ⟨client, hclient, hown⟩ := registry.named.mp hname
  refine ⟨client, ?_, registry.keyed hclient⟩
  rw [getByName_eq_some_iff, mem_values_iff, registry.keyed hclient]
  exact ⟨hclient, hown⟩

lemma registered_iff_exists_name :
    registry.Registered vtoken ↔ ∃ name client, registry.getByName name = some client ∧
        client.vtoken = vtoken := by
  rw [registered_iff_named]
  constructor
  · rintro ⟨name, hname⟩
    exact ⟨name, getByName_of_lookup hname⟩
  · rintro ⟨name, client, hclient, rfl⟩
    exact ⟨name, lookup_byName hclient⟩

variable {client : ClientInfo} {hvtoken : registry.byVtoken.lookup client.vtoken = none}
  {hname : registry.byName.lookup client.name = none}
  {hnamed : registry.byName.lookup name = some vtoken} {f : ClientInfo → ClientInfo}

lemma name_eq_of_vtoken_eq {other : String} (hinfo : registry.getByName name = some info)
    (hclient : registry.getByName other = some client)
    (hvtoken : info.vtoken = client.vtoken) : name = other := by
  obtain ⟨hleft, rfl⟩ := getByName_eq_some_iff.mp hinfo
  obtain ⟨hright, rfl⟩ := getByName_eq_some_iff.mp hclient
  rw [mem_values_iff] at hleft hright
  rw [hvtoken, hright] at hleft
  rw [Option.some.inj hleft]

lemma mem_values_adjust {own : String} {hvtoken : ∀ client, (f client).vtoken = client.vtoken}
    {hname : ∀ client, (f client).name = client.name} :
    info ∈ (registry.adjust own f hvtoken hname).values ↔ ∃ client ∈ registry.values,
        info = if client.vtoken = own then f client else client := by
  rw [mem_values_iff, lookup_adjust]
  constructor
  · intro hinfo
    split at hinfo
    · obtain ⟨client, hclient, rfl⟩ := Option.map_eq_some_iff.mp hinfo
      have hkey := registry.keyed hclient
      refine ⟨client, ?_, (if_pos hkey).symm⟩
      rw [mem_values_iff, hkey]
      exact hclient
    · next hother =>
      exact ⟨info, mem_values_iff.mpr hinfo, (if_neg hother).symm⟩
  · rintro ⟨client, hclient, rfl⟩
    rw [mem_values_iff] at hclient
    split
    · next hown =>
      rw [if_pos ((hvtoken client).trans hown), ← hown, hclient]
      rfl
    · next hother => rw [if_neg hother, hclient]

lemma mem_values_insertClient :
    info ∈ (registry.insertClient client hvtoken hname).values ↔
      info = client ∨ info ∈ registry.values := by
  rw [mem_values_iff, insertClient, Query.lookup_insert, mem_values_iff]
  split
  · next hown =>
    rw [hown, hvtoken, eq_comm]
    simp
  · next hother =>
    constructor
    · exact .inr
    · rintro (rfl | hinfo)
      · exact absurd rfl hother
      · exact hinfo

lemma mem_values_removeNamed :
    info ∈ (registry.removeNamed name vtoken hnamed).values ↔
      info.name ≠ name ∧ info ∈ registry.values := by
  rw [mem_values_iff, removeNamed, Query.lookup_erase, mem_values_iff]
  obtain ⟨client, hclient, rfl⟩ := registry.named.mp hnamed
  have hkey := registry.keyed hclient
  constructor
  · intro hinfo
    split at hinfo
    · cases hinfo
    · next hother =>
      refine ⟨fun hsame => hother ?_, hinfo⟩
      have heq := eq_of_name_eq (mem_values_iff.mpr hinfo)
        (mem_values_iff.mpr (hkey.symm ▸ hclient)) hsame
      rw [heq, hkey]
  · rintro ⟨hother, hinfo⟩
    rw [if_neg ?_, hinfo]
    intro hsame
    rw [hsame, hclient] at hinfo
    exact hother (congrArg ClientInfo.name (Option.some.inj hinfo)).symm

lemma getByName_adjust {hvtoken : ∀ client, (f client).vtoken = client.vtoken}
    {hname : ∀ client, (f client).name = client.name}
    (hinfo : registry.getByName name = some info) :
    (registry.adjust info.vtoken f hvtoken hname).getByName =
      update registry.getByName name (some (f info)) := by
  obtain ⟨hmem, rfl⟩ := getByName_eq_some_iff.mp hinfo
  funext other
  ext client
  rw [getByName_eq_some_iff, mem_values_adjust, update_apply]
  constructor
  · rintro ⟨⟨own, hown, rfl⟩, rfl⟩
    split
    · next hsame =>
      have heq : own = info := by
        rw [mem_values_iff] at hown hmem
        rw [hsame, hmem] at hown
        exact (Option.some.inj hown).symm
      rw [heq, hname, if_pos rfl]
    · next hother =>
      rw [if_neg ?_, getByName_eq_some_iff]
      · exact ⟨hown, rfl⟩
      · intro hsame
        exact hother (congrArg ClientInfo.vtoken (eq_of_name_eq hown hmem hsame))
  · intro hclient
    split at hclient
    · next hsame =>
      cases hclient
      refine ⟨⟨info, hmem, (if_pos rfl).symm⟩, ?_⟩
      rw [hname, hsame]
    · next hother =>
      obtain ⟨hown, rfl⟩ := getByName_eq_some_iff.mp hclient
      refine ⟨⟨client, hown, (if_neg fun hsame => hother ?_).symm⟩, rfl⟩
      rw [mem_values_iff] at hown hmem
      rw [hsame, hmem] at hown
      rw [Option.some.inj hown]

lemma getByName_insertClient :
    (registry.insertClient client hvtoken hname).getByName =
      update registry.getByName client.name (some client) := by
  ext own
  rw [getByName_eq_some_iff, mem_values_insertClient, update_apply]
  constructor
  · rintro ⟨rfl | hown, rfl⟩
    · rw [if_pos rfl]
    · have hfound := getByName_eq_some_iff.mpr ⟨hown, rfl⟩
      rw [if_neg ?_, hfound]
      intro hsame
      simp [hsame, getByName_eq_none_iff.mpr hname] at hfound
  · intro hown
    split at hown
    · next hsame =>
      cases hown
      exact ⟨.inl rfl, hsame.symm⟩
    · obtain ⟨hmem, hsame⟩ := getByName_eq_some_iff.mp hown
      exact ⟨.inr hmem, hsame⟩

lemma getByName_removeNamed (hnamed : registry.byName.lookup name = some vtoken) :
    (registry.removeNamed name vtoken hnamed).getByName = update registry.getByName name none := by
  ext own
  rw [getByName_eq_some_iff, mem_values_removeNamed, update_apply]
  constructor
  · rintro ⟨⟨hother, hmem⟩, rfl⟩
    rw [if_neg hother, getByName_eq_some_iff]
    exact ⟨hmem, rfl⟩
  · intro hown
    split at hown
    · cases hown
    · next hother =>
      obtain ⟨hmem, rfl⟩ := getByName_eq_some_iff.mp hown
      exact ⟨⟨hother, hmem⟩, rfl⟩

lemma getByName_replaceClient
    {hvtoken : client.vtoken = vtoken ∨ registry.byVtoken.lookup client.vtoken = none}
    {hname : client.name = name ∨ registry.byName.lookup client.name = none} :
    (registry.replaceClient name vtoken client hnamed hvtoken hname).getByName =
      update (update registry.getByName name none) client.name (some client) := by
  rw [replaceClient, getByName_insertClient, getByName_removeNamed]

/-- The client of a name that is registered again. -/
def reregistered (label description : Option String) (info : ClientInfo) : ClientInfo :=
  { info with
    label := label.or info.label
    description := description.or info.description
    online := true }

lemma register_known (hinfo : registry.getByName name = some info)
    (hdrawn : registry.byVtoken.lookup drawn = none) :
    ∃ next, registry.register name label description drawn hdrawn = (info.vtoken, false, next) ∧
      next.getByName = update registry.getByName name
        (some (reregistered label description info)) := by
  have hname := lookup_byName hinfo
  unfold register
  split
  · next existing hexisting =>
    obtain rfl := Option.some.inj (hname.symm.trans hexisting)
    exact ⟨_, rfl, getByName_adjust hinfo⟩
  · next hnone =>
    simp [hname] at hnone

lemma length_values_insertClient :
    (registry.insertClient client hvtoken hname).values.length = registry.values.length + 1 := by
  have hnew := AList.lookup_eq_none.mp hvtoken
  rw [values, insertClient, AList.entries_insert_of_notMem hnew, List.map_cons]
  rfl

lemma register_new (hnone : registry.getByName name = none)
    (hdrawn : registry.byVtoken.lookup drawn = none) :
    ∃ next, registry.register name label description drawn hdrawn = (drawn, true, next) ∧
      next.values.length = registry.values.length + 1 ∧
      next.getByName = update registry.getByName name
        (some (.withHashedVtoken name label description drawn)) := by
  unfold register
  split
  · next existing hexisting =>
    simp [getByName_eq_none_iff.mp hnone] at hexisting
  · exact ⟨_, rfl, length_values_insertClient, getByName_insertClient⟩

lemma registerConfirmed_known (label description : Option String)
    (hinfo : registry.getByName name = some info) (hdrawn : registry.byVtoken.lookup drawn = none) :
    registry.registerConfirmed name label description drawn hdrawn = none := by
  have hname := lookup_byName hinfo
  unfold registerConfirmed
  split
  · rfl
  · next hnone =>
    simp [hname] at hnone

lemma registerConfirmed_new (label description : Option String)
    (hnone : registry.getByName name = none) (hdrawn : registry.byVtoken.lookup drawn = none) :
    ∃ next, registry.registerConfirmed name label description drawn hdrawn = some next ∧
      next.values.length = registry.values.length + 1 ∧
      next.getByName = update registry.getByName name
        (some (.withHashedVtoken name label description drawn)) := by
  unfold registerConfirmed
  split
  · next existing hexisting =>
    simp [getByName_eq_none_iff.mp hnone] at hexisting
  · exact ⟨_, rfl, length_values_insertClient, getByName_insertClient⟩

lemma rotateVtoken_known (hinfo : registry.getByName name = some info)
    (hdrawn : registry.byVtoken.lookup drawn = none) :
    ∃ next, registry.rotateVtoken name drawn hdrawn = some (info.vtoken, next) ∧
      next.getByName = update registry.getByName name
        (some { info with vtoken := drawn, online := false }) := by
  have hname := lookup_byName hinfo
  obtain ⟨hmem, hown⟩ := getByName_eq_some_iff.mp hinfo
  have hlookup := mem_values_iff.mp hmem
  unfold rotateVtoken
  split
  · next hnone =>
    simp [hname] at hnone
  · next oldHash holdHash =>
    obtain rfl := Option.some.inj (hname.symm.trans holdHash)
    split
    · next hnone =>
      simp [hlookup] at hnone
    · next client hclient =>
      obtain rfl := Option.some.inj (hlookup.symm.trans hclient)
      refine ⟨_, rfl, ?_⟩
      rw [getByName_replaceClient, hown, update_idem]

lemma rotateVtoken_none (hnone : registry.getByName name = none)
    (hdrawn : registry.byVtoken.lookup drawn = none) :
    registry.rotateVtoken name drawn hdrawn = none := by
  have hname := getByName_eq_none_iff.mp hnone
  unfold rotateVtoken
  split
  · rfl
  · next oldHash holdHash =>
    simp [hname] at holdHash

lemma remove_unknown (hinfo : registry.getByName name = none) :
    registry.remove name = (false, registry) := by
  have hname := getByName_eq_none_iff.mp hinfo
  unfold remove
  split
  · next own hown =>
    simp [hname] at hown
  · rfl

lemma remove_known (hinfo : registry.getByName name = some info) :
    (registry.remove name).1 = true ∧ (registry.remove name).2.getByName =
        update registry.getByName name none := by
  have hname := lookup_byName hinfo
  unfold remove
  split
  · next own hown => exact ⟨rfl, getByName_removeNamed hown⟩
  · next hnone =>
    simp [hname] at hnone

/-- The client under its new name, with the label if one is given. -/
def renamed (newName : String) (label : Option String) (info : ClientInfo) : ClientInfo :=
  { info with name := newName, label := label.or info.label }

lemma updateClient_known {newName : String} (label : Option String)
    (hinfo : registry.getByName name = some info)
    (hfree : newName = name ∨ registry.getByName newName = none) :
    ∃ next, registry.updateClient name newName label = .ok (info.vtoken, next) ∧ next.getByName =
        update (update registry.getByName name none) newName
          (some (renamed newName label info)) := by
  have hname := lookup_byName hinfo
  obtain ⟨hmem, hown⟩ := getByName_eq_some_iff.mp hinfo
  have hlookup := mem_values_iff.mp hmem
  unfold updateClient
  split
  · next hnone =>
    simp [hname] at hnone
  · next vtoken hvtoken =>
    obtain rfl := Option.some.inj (hname.symm.trans hvtoken)
    split
    · next hsame =>
      refine ⟨_, rfl, ?_⟩
      rw [getByName_adjust hinfo, hsame, update_idem, renamed, ← hown]
    · next hother =>
      have hnone := getByName_eq_none_iff.mp (hfree.resolve_left hother)
      split
      · next taken htaken =>
        simp [hnone] at htaken
      · split
        · next hmissing =>
          simp [hlookup] at hmissing
        · next client hclient =>
          obtain rfl := Option.some.inj (hlookup.symm.trans hclient)
          exact ⟨_, rfl, getByName_replaceClient⟩

lemma updateClient_error {newName : String} (label : Option String)
    (hno : registry.getByName name = none ∨ newName ≠ name ∧ registry.getByName newName ≠ none) :
    ∃ error, registry.updateClient name newName label = .error error := by
  unfold updateClient
  split
  · exact ⟨_, rfl⟩
  · next vtoken hvtoken =>
    obtain ⟨hother, htaken⟩ := hno.resolve_left fun hnone => by
      simp [getByName_eq_none_iff.mp hnone] at hvtoken
    rw [if_neg hother]
    split
    · exact ⟨_, rfl⟩
    · next hnone => exact absurd (getByName_eq_none_iff.mpr hnone) htaken

/-- The tokens of the names. -/
def tokens (registry : KeyedRegistry) (name : String) : Option String :=
  (registry.getByName name).map ClientInfo.vtoken

lemma tokens_of_getByName {info : ClientInfo} (hinfo : registry.getByName name = some info) :
    registry.tokens name = some info.vtoken := by
  rw [tokens, hinfo]
  rfl

lemma tokens_eq_none_iff : registry.tokens name = none ↔ registry.getByName name = none :=
  Option.map_eq_none_iff

lemma registered_iff_tokens :
    registry.Registered vtoken ↔ ∃ name, registry.tokens name = some vtoken := by
  rw [registered_iff_exists_name]
  simp [tokens]

end KeyedRegistry

end IlinkHub
