/-
Names and list numbers of clients (`hub/registry.rs`, `hub/commands.rs`): how far
an alias depends on clients the user does not see, and that the number `/list`
prints selects the client it is printed for.
-/
import Mathlib.Data.String.Basic
import IlinkHub.KeyedRegistry
import IlinkHub.Router

namespace IlinkHub

open ClientRegistry KeyedRegistry Text

namespace ClientRegistry

/-- The visible clients in the order of their names. -/
def listed (registry : ClientRegistry) (visible : Option (List String)) : List ClientInfo :=
  Query.orderBy ClientInfo.name (registry.allClientsIn visible)

/-- The registries have the same clients with these names. -/
def AgreeOn (names : List String) (first second : ClientRegistry) : Prop :=
  ∀ client : ClientInfo, client.name ∈ names → (client ∈ first.values ↔ client ∈ second.values)

/-- What a string that names no client stands for. -/
def atNumeral (registry : ClientRegistry) (name : String)
    (visible : Option (List String)) : Option ClientInfo :=
  match parseUnsigned 64 name with
  | none | some 0 => none
  | some (n + 1) => (registry.listed visible)[n]?

lemma length_listed (registry : ClientRegistry) (visible : Option (List String)) :
    (registry.listed visible).length = (registry.allClientsIn visible).length :=
  (Query.orderBy_perm _ _).length_eq

lemma length_allClientsIn_le (registry : ClientRegistry) (visible : Option (List String)) :
    (registry.allClientsIn visible).length ≤ registry.values.length := by
  cases visible with
  | none => exact le_refl _
  | some names => exact List.length_filter_le _ _

variable {registry : ClientRegistry} {visible : Option (List String)} {name : String}

lemma getByAliasIn_of_named {client : ClientInfo}
    (hclient : registry.getByName name = some client) : registry.getByAliasIn name visible =
      if visible.all fun names => client.name ∈ names then some client
      else none := by
  rw [getByAliasIn, hclient]

lemma getByAliasIn_of_not_named (hnone : registry.getByName name = none) :
    registry.getByAliasIn name visible = registry.atNumeral name visible := by
  rw [getByAliasIn, hnone]
  rfl

lemma atNumeral_ne_none_iff :
    registry.atNumeral name visible ≠ none ↔ ∃ n, parseUnsigned 64 name = some (n + 1) ∧
        n < (registry.allClientsIn visible).length := by
  unfold atNumeral
  cases hparse : parseUnsigned 64 name with
  | none => simp
  | some value =>
    cases value with
    | zero => simp
    | succ n => simp [length_listed]

lemma ite_none_eq_iff {α : Type} {left right : Bool} {value : Option α} :
    ((if left = true then none else value) =
      if right = true then none else value) ↔
      (value ≠ none → left = right) := by
  cases left <;> cases right <;> simp [eq_comm]

end ClientRegistry

namespace KeyedRegistry

variable {first second registry : KeyedRegistry} {names : List String}
  {visible : Option (List String)}

lemma mem_allClientsIn_iff {registry : ClientRegistry} {client : ClientInfo} :
    client ∈ registry.allClientsIn visible ↔ client ∈ registry.values ∧
        visible.all (fun names => client.name ∈ names) = true := by
  cases visible with
  | none => simp [allClientsIn]
  | some names => simp [allClientsIn]

lemma nodup_allClientsIn (visible : Option (List String)) :
    (registry.allClientsIn visible).Nodup := by
  cases visible with
  | none => exact nodup_values
  | some names => exact nodup_values.filter _

/-- The listed clients depend on the visible clients only, not on the order in
which the map is read. -/
lemma listed_eq_of_mem_iff
    (hsame : ∀ client, client ∈ first.allClientsIn visible ↔ client ∈ second.allClientsIn visible) :
    first.listed visible = second.listed visible := by
  apply Query.orderBy_eq_of_perm
  · intro left hleft right hright hname
    exact eq_of_name_eq (mem_allClientsIn_iff.mp hleft).1 (mem_allClientsIn_iff.mp hright).1 hname
  · exact (List.perm_ext_iff_of_nodup (nodup_allClientsIn visible)
      (nodup_allClientsIn visible)).mpr hsame

lemma listed_eq_of_agreeOn (hagree : AgreeOn names first.toClientRegistry second.toClientRegistry) :
    first.listed (some names) = second.listed (some names) := by
  apply listed_eq_of_mem_iff
  intro client
  rw [mem_allClientsIn_iff, mem_allClientsIn_iff, Option.all_some, decide_eq_true_iff]
  exact and_congr_left (hagree client)

/-- A visible name belongs to the same client in both registries. -/
lemma getByName_eq_of_agreeOn {name : String} (hagree : AgreeOn names first.toClientRegistry
      second.toClientRegistry) (hname : name ∈ names) :
    first.getByName name = second.getByName name := by
  ext client
  rw [getByName_eq_some_iff, getByName_eq_some_iff]
  exact and_congr_left fun hclient => hagree client (hclient ▸ hname)

/-- A name outside the visible set hides the number it spells. -/
lemma getByAliasIn_of_hidden {name : String} (hhidden : name ∉ names) :
    registry.getByAliasIn name (some names) =
      if (registry.getByName name).isSome then none
      else registry.atNumeral name (some names) := by
  cases hclient : registry.getByName name with
  | none =>
    rw [getByAliasIn_of_not_named hclient]
    rfl
  | some client =>
    have hname := (getByName_eq_some_iff.mp hclient).2
    rw [getByAliasIn_of_named hclient]
    simp [hname, hhidden]

lemma agreeOn_of_values (hidden : List ClientInfo)
    (hvalues : second.values = hidden ++ first.values)
    (hhidden : ∀ client ∈ hidden, client.name ∉ names) : AgreeOn names first.toClientRegistry
      second.toClientRegistry := by
  intro client hclient
  rw [hvalues, List.mem_append]
  exact (or_iff_right fun hmem => hhidden client hmem hclient).symm

/-- Hidden clients matter to an alias only through a hidden client that is named
like the number of a visible one. -/
theorem getByAliasIn_eq_iff (hagree : AgreeOn names first.toClientRegistry
      second.toClientRegistry) (name : String) :
    first.getByAliasIn name (some names) = second.getByAliasIn name (some names) ↔
      ∀ n, parseUnsigned 64 name = some (n + 1) →
        n < (first.allClientsIn (some names)).length →
          (first.getByName name).isSome = (second.getByName name).isSome := by
  have hlisted := listed_eq_of_agreeOn hagree
  have hnumeral : first.atNumeral name (some names) = second.atNumeral name (some names) := by
    unfold atNumeral
    rw [hlisted]
  by_cases hvisible : name ∈ names
  · have hname := getByName_eq_of_agreeOn hagree hvisible
    have hsame : first.getByAliasIn name (some names) = second.getByAliasIn name (some names) := by
      cases hclient : first.getByName name with
      | some client =>
        rw [getByAliasIn_of_named hclient, getByAliasIn_of_named (hname.symm.trans hclient)]
      | none =>
        rw [getByAliasIn_of_not_named hclient, getByAliasIn_of_not_named (hname.symm.trans hclient),
          hnumeral]
    exact iff_of_true hsame fun _ _ _ => by rw [hname]
  · rw [getByAliasIn_of_hidden hvisible, getByAliasIn_of_hidden hvisible, ← hnumeral]
    rw [ite_none_eq_iff, atNumeral_ne_none_iff]
    simp [and_imp]

end KeyedRegistry

namespace Sample

def aliasBot : KeyedRegistry :=
  new.insertClient { name := "bot", vtoken := "b" } rfl rfl

def aliasOps : KeyedRegistry :=
  aliasBot.insertClient { name := "ops", vtoken := "o" } rfl rfl

/-- A client whose name is a number. -/
def aliasOne : KeyedRegistry :=
  aliasBot.insertClient { name := "1", vtoken := "n" } rfl rfl

def aliasTwelve : KeyedRegistry :=
  aliasBot.insertClient { name := "12", vtoken := "n" } rfl rfl

lemma agreeOn_aliasOps : AgreeOn ["bot"] aliasBot.toClientRegistry aliasOps.toClientRegistry :=
  agreeOn_of_values [{ name := "ops", vtoken := "o" }] rfl (by decide)

lemma agreeOn_aliasOne : AgreeOn ["bot"] aliasBot.toClientRegistry aliasOne.toClientRegistry :=
  agreeOn_of_values [{ name := "1", vtoken := "n" }] rfl (by decide)

end Sample

open Sample

/-- The first visible client behind the number 1, with and without a hidden
client beside it. -/
theorem KeyedRegistry.getByAliasIn_beside_hidden :
    aliasBot.getByAliasIn "1" (some ["bot"]) = aliasOps.getByAliasIn "1" (some ["bot"]) :=
  (getByAliasIn_eq_iff agreeOn_aliasOps "1").mpr fun _ _ _ => by decide

/-- A hidden client named `1` takes the number away from the visible one. -/
theorem KeyedRegistry.getByAliasIn_hidden_numeral :
    AgreeOn ["bot"] aliasBot.toClientRegistry aliasOne.toClientRegistry ∧
    aliasBot.getByAliasIn "1" (some ["bot"]) = some { name := "bot", vtoken := "b" } ∧
    aliasOne.getByAliasIn "1" (some ["bot"]) = none :=
  ⟨agreeOn_aliasOne, by decide +kernel⟩

/-- The line of `/list` for the client at a position. -/
def listLine (position : Nat) (client : ClientInfo) (activeName : Option String) : String :=
  let status := if client.online then "🟢" else "🔴"
  let label := client.label.getD client.name
  let selected := if activeName = some client.name then " ✅" else ""
  status ++ " " ++ toString position ++ ". `" ++ client.name ++ "`" ++ selected ++ " — " ++ label

def listLines (clients : List ClientInfo) (activeName : Option String) : List String :=
  "**已注册的后端：**" :: (clients.zipIdx 1).map (fun entry => listLine entry.2 entry.1 activeName) ++
    [match activeName with
      | some name => "\n当前选中：`" ++ name ++ "`"
      | none => "\n当前未选中（广播模式）",
    "用 `/use <名称或序号>`（或 `/u <名称或序号>`）切换后端，或发送 `@<名称或序号> <消息>` 直接发起临时会话。"]

/-- The name of the client the user is routed to, if it is listed. -/
def activeName (clients : List ClientInfo) (router : Router)
    (fromUserId : String) : Option String :=
  (router.getRoute fromUserId).bind fun vtoken =>
    (clients.find? fun client => client.vtoken == vtoken).map ClientInfo.name

def handleCmdList (registry : ClientRegistry) (visible : Option (List String))
    (router : Router) (fromUserId : String) : String :=
  let clients := registry.listed visible
  if clients.isEmpty then
    if visible.isSome then "尚未授权任何后端客户端。"
    else "尚未注册任何后端客户端。"
  else
    "\n".intercalate (listLines clients (activeName clients router fromUserId))

/-- The line behind the heading at a position is the line of the client there. -/
theorem getElem?_listLines {clients : List ClientInfo} {name : Option String}
    {n : Nat} {client : ClientInfo} (hclient : clients[n]? = some client) :
    (listLines clients name)[n + 1]? = some (listLine (n + 1) client name) := by
  have hlength := (getElem?_eq_some_iff.mp hclient).1
  have hline : ((clients.zipIdx 1).map fun entry =>
      listLine entry.2 entry.1 name)[n]? = some (listLine (n + 1) client name) := by
    rw [List.getElem?_map, List.getElem?_zipIdx, hclient, add_comm n 1]
    rfl
  unfold listLines
  rw [List.cons_append, List.getElem?_cons_succ,
    List.getElem?_append_left (by simpa using hlength), hline]

namespace KeyedRegistry

variable {printed registry : KeyedRegistry} {visible : Option (List String)}

lemma atNumeral_toString {n : Nat} (hfits : n + 1 < 2 ^ 64) :
    registry.atNumeral (toString (n + 1)) visible = (registry.listed visible)[n]? := by
  rw [atNumeral, parseUnsigned_toString hfits]

/-- The number in front of a listed client selects it, and a number that is not
in the list selects nothing, unless a client has the number as its name.  The
list and the alias may read the map in different orders. -/
theorem list_number_selects (hsame : ∀ client, client ∈ printed.values ↔ client ∈ registry.values)
    (hsize : registry.values.length < 2 ^ 64) (router : Router) (fromUserId : String) {i : Nat}
    (hname : registry.getByName (toString i) = none) :
    (1 ≤ i → i ≤ (printed.listed visible).length → ∃ client lines,
        registry.getByAliasIn (toString i) visible = some client ∧
        (printed.listed visible)[i - 1]? = some client ∧
        handleCmdList printed.toClientRegistry visible router fromUserId = "\n".intercalate lines ∧
        lines[i]? = some (listLine i client
          (activeName (printed.listed visible) router fromUserId))) ∧
    (i = 0 ∨ (printed.listed visible).length < i →
      registry.getByAliasIn (toString i) visible = none) := by
  have hlisted : printed.listed visible = registry.listed visible := by
    apply listed_eq_of_mem_iff
    intro client
    rw [mem_allClientsIn_iff, mem_allClientsIn_iff, hsame]
  have hlength : (printed.listed visible).length ≤ registry.values.length := by
    rw [hlisted, length_listed]
    exact length_allClientsIn_le _ visible
  rw [getByAliasIn_of_not_named hname]
  constructor
  · intro hpos hle
    obtain ⟨n, rfl⟩ := Nat.exists_eq_add_of_le' hpos
    obtain ⟨client, hclient⟩ : ∃ client, (printed.listed visible)[n]? = some client :=
      ⟨_, List.getElem?_eq_getElem (Nat.lt_of_succ_le hle)⟩
    have hnonempty : (printed.listed visible).isEmpty = false := by
      cases hlist : printed.listed visible with
      | nil => simp [hlist] at hclient
      | cons head rest => rfl
    refine ⟨client, _, ?_, hclient, ?_, getElem?_listLines hclient⟩
    · rw [atNumeral_toString (by omega), ← hlisted, hclient]
    · rw [handleCmdList]
      simp [hnonempty]
  · intro hout
    by_contra hsome
    obtain ⟨n, hparse, hn⟩ := atNumeral_ne_none_iff.mp hsome
    rw [← length_listed, ← hlisted] at hn
    rw [parseUnsigned_toString_eq] at hparse
    split at hparse
    · have hi := Option.some.inj hparse
      omega
    · cases hparse

/-- The second line of a list of two. -/
theorem list_number_two :
    ∃ client lines, aliasOps.getByAliasIn "2" none = some client ∧
      (aliasOps.listed none)[1]? = some client ∧
      handleCmdList aliasOps.toClientRegistry none (.new none) "alice" = "\n".intercalate lines ∧
      lines[2]? = some (listLine 2 client
        (activeName (aliasOps.listed none) (.new none) "alice")) :=
  (list_number_selects (fun _ => .rfl) (by decide) (.new none) "alice"
    (i := 2) (by decide)).1 (by decide) (by decide)

/-- Numbers beyond the list are no numbers for a client that has one as its
name: the list has two lines, `12` is a client all the same. -/
theorem list_number_named :
    (aliasTwelve.listed none).length = 2 ∧ aliasTwelve.getByName "1" = none ∧
    aliasTwelve.getByAliasIn "12" none = some { name := "12", vtoken := "n" } := by
  decide +kernel

end KeyedRegistry

end IlinkHub
