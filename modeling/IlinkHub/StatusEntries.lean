/-
The sessions of the status page (`store/messages.rs`): two grouped queries, each joined
back to the messages through the largest id of a group, and put together through maps.
-/
import IlinkHub.HubExtBatch
import Mathlib.Data.List.Dedup

namespace Query

section Push

variable {α β : Type*} [DecidableEq α]

/-- Each value is pushed to the list of its key. -/
def pushAll (table : AList fun _ : α => List β) (rows : List (α × β)) : AList fun _ : α => List β :=
  rows.foldl (fun table row => table.insert row.1 ((table.lookup row.1).getD [] ++ [row.2])) table

lemma lookup_pushAll (key : α) (rows : List (α × β)) (table : AList fun _ => List β) :
    (pushAll table rows).lookup key =
      if (rows.filter fun row => row.1 = key) = [] then table.lookup key
      else some ((table.lookup key).getD [] ++
        (rows.filter fun row => row.1 = key).map Prod.snd) := by
  induction rows generalizing table with
  | nil => simp [pushAll]
  | cons row rows ih =>
    refine (ih _).trans ?_
    rw [lookup_insert]
    by_cases hkey : row.1 = key
    · subst hkey
      split
      · next hnil => simp [hnil]
      · simp
    · rw [List.filter_cons_of_neg (by simpa using hkey), if_neg (Ne.symm hkey)]

end Push

end Query

namespace IlinkHub

open Query

/-- A row of `messages`, as far as the status page reads it. -/
structure StatusRow where
  id : Int
  vtoken : Option String
  sessionName : String
  role : String
  content : String
  createdAt : String
deriving Repr, DecidableEq

structure SessionStatusEntry where
  sessionName : String
  lastUserContent : Option String
  waitingForReply : Bool
  userMsgCreatedAt : Option String
deriving Repr, DecidableEq

structure StatusTable where
  rows : List StatusRow
  unique : (rows.map StatusRow.id).Nodup

/-- The columns of `GROUP BY`; only rows with a token are grouped. -/
def StatusRow.key (row : StatusRow) : String × String :=
  (row.vtoken.getD "", row.sessionName)

/-- `vtoken IN (…)`. -/
def StatusRow.listed (vtokens : List String) (row : StatusRow) : Bool :=
  decide (∃ vtoken ∈ vtokens, row.vtoken = some vtoken)

def StatusRow.inSession (vtoken name : String) (row : StatusRow) : Bool :=
  decide (row.vtoken = some vtoken ∧ row.sessionName = name)

namespace StatusTable

variable (table : StatusTable) (p : StatusRow → Bool)

/-- `MAX(id)` of a group. -/
def maxId (key : String × String) : Option Int :=
  ((table.rows.filter fun row => p row ∧ row.key = key).map StatusRow.id).max?

/-- The rows that are joined with the groups on their largest id. -/
def joined : List StatusRow :=
  ((table.rows.filter p).map StatusRow.key).dedup.flatMap fun key =>
    table.rows.filter fun row => table.maxId p key = some row.id

def latestRows (vtokens : List String) : List StatusRow :=
  orderBy (fun row => -row.id) (table.joined (StatusRow.listed vtokens))

def userRows (order : RowOrder) (vtokens : List String) : List StatusRow :=
  order.arrange (table.joined fun row => decide (row.role = "user") && row.listed vtokens)

/-- What the maps of both results have for a row of the first. -/
def entry (order : RowOrder) (vtokens : List String) (row : StatusRow) : SessionStatusEntry :=
  let roleMap := collect ((table.latestRows vtokens).map fun row => (row.key, row.role))
  let userContentMap := collect
    ((table.userRows order vtokens).map fun row => (row.key, (row.content, row.createdAt)))
  { sessionName := row.sessionName
    lastUserContent := (userContentMap.lookup row.key).map Prod.fst
    waitingForReply := decide ((roleMap.lookup row.key).getD "assistant" = "user")
    userMsgCreatedAt := (userContentMap.lookup row.key).map Prod.snd }

def getAllSessionEntriesPerVtoken (order : RowOrder) (vtokens : List String) :
    AList fun _ : String => List SessionStatusEntry :=
  if vtokens = [] then ∅
  else if table.latestRows vtokens = [] then ∅
  else pushAll ∅ ((table.latestRows vtokens).map fun row =>
    (row.vtoken.getD "", table.entry order vtokens row))

/-- The row with the largest id in its session, among the rows a condition picks. -/
structure Latest (row : StatusRow) : Prop where
  mem : row ∈ table.rows
  picked : p row = true
  largest : ∀ other ∈ table.rows, p other = true → other.key = row.key → other.id ≤ row.id

variable {table p}

lemma eq_of_id {row other : StatusRow} (hrow : row ∈ table.rows) (hother : other ∈ table.rows)
    (hid : row.id = other.id) : row = other :=
  List.inj_on_of_nodup_map table.unique hrow hother hid

lemma Latest.eq {row other : StatusRow} (hrow : table.Latest p row)
    (hother : table.Latest p other) (hkey : row.key = other.key) : row = other :=
  eq_of_id hrow.mem hother.mem (le_antisymm (hother.largest row hrow.mem hrow.picked hkey)
    (hrow.largest other hother.mem hother.picked hkey.symm))

lemma maxId_eq_some_iff {key : String × String} {row : StatusRow} (hrow : row ∈ table.rows) :
    table.maxId p key = some row.id ↔ table.Latest p row ∧ row.key = key := by
  rw [maxId, List.max?_eq_some_iff]
  simp only [List.mem_map, List.mem_filter, decide_eq_true_iff]
  constructor
  · rintro ⟨⟨other, ⟨hother, hpicked, rfl⟩, hid⟩, hmax⟩
    obtain rfl := eq_of_id hother hrow hid
    exact ⟨⟨hrow, hpicked, fun another hanother hpicked hkey =>
      hmax _ ⟨another, ⟨hanother, hpicked, hkey⟩, rfl⟩⟩, rfl⟩
  · rintro ⟨hlatest, rfl⟩
    refine ⟨⟨row, ⟨hrow, hlatest.picked, rfl⟩, rfl⟩, ?_⟩
    rintro _ ⟨other, ⟨hother, hpicked, hkey⟩, rfl⟩
    exact hlatest.largest other hother hpicked hkey

lemma mem_joined_iff {row : StatusRow} : row ∈ table.joined p ↔ table.Latest p row := by
  simp only [joined, List.mem_flatMap, List.mem_dedup, List.mem_map, List.mem_filter,
    decide_eq_true_iff]
  constructor
  · rintro ⟨_, -, hrow, hmax⟩
    exact ((maxId_eq_some_iff hrow).mp hmax).1
  · intro hlatest
    exact ⟨row.key, ⟨row, ⟨hlatest.mem, hlatest.picked⟩, rfl⟩, hlatest.mem,
      (maxId_eq_some_iff hlatest.mem).mpr ⟨hlatest, rfl⟩⟩

lemma nodup_joined : (table.joined p).Nodup := by
  rw [joined, List.nodup_flatMap]
  refine ⟨fun _ _ => table.unique.of_map.filter _, (List.nodup_dedup _).imp ?_⟩
  intro left right hne row hleft hright
  simp only [List.mem_filter, decide_eq_true_iff] at hleft hright
  exact hne (((maxId_eq_some_iff hleft.1).mp hleft.2).2.symm.trans
    ((maxId_eq_some_iff hright.1).mp hright.2).2)

lemma exists_latest {row : StatusRow} (hrow : row ∈ table.rows) (hpicked : p row = true) :
    ∃ latest, table.Latest p latest ∧ latest.key = row.key := by
  have hne : table.maxId p row.key ≠ none := by
    rw [maxId, ne_eq, List.max?_eq_none_iff, List.map_eq_nil_iff]
    exact List.ne_nil_of_mem (List.mem_filter.mpr ⟨hrow, decide_eq_true ⟨hpicked, rfl⟩⟩)
  obtain ⟨id, hid⟩ := Option.ne_none_iff_exists'.mp hne
  obtain ⟨hmem, -⟩ := List.max?_eq_some_iff.mp hid
  obtain ⟨latest, hlatest, rfl⟩ := List.mem_map.mp hmem
  exact ⟨latest, (maxId_eq_some_iff (List.mem_filter.mp hlatest).1).mp hid⟩

/-- A map of joined rows has the value of the latest row of a key. -/
lemma lookup_collect_eq_some {γ : Type} {rows : List StatusRow}
    (hrows : rows.Perm (table.joined p)) (f : StatusRow → γ) {row : StatusRow}
    (hrow : table.Latest p row) :
    (collect (rows.map fun row => (row.key, f row))).lookup row.key = some (f row) := by
  refine lookup_extend_of_agree ?_ ?_ ∅
  · rintro _ hother hkey
    obtain ⟨other, hmem, rfl⟩ := List.mem_map.mp hother
    rw [(mem_joined_iff.mp (hrows.mem_iff.mp hmem)).eq hrow hkey]
  · exact ⟨_, List.mem_map_of_mem (hrows.mem_iff.mpr (mem_joined_iff.mpr hrow)), rfl⟩

lemma lookup_collect_eq_none {γ : Type} {rows : List StatusRow}
    (hrows : rows.Perm (table.joined p)) (f : StatusRow → γ) {key : String × String}
    (hnone : ∀ row ∈ table.rows, p row = true → row.key ≠ key) :
    (collect (rows.map fun row => (row.key, f row))).lookup key = none := by
  refine (lookup_extend_of_forall_ne ?_ ∅).trans (AList.lookup_empty key)
  intro _ hrow
  obtain ⟨row, hmem, rfl⟩ := List.mem_map.mp hrow
  have hlatest := mem_joined_iff.mp (hrows.mem_iff.mp hmem)
  exact hnone row hlatest.mem hlatest.picked

lemma perm_latestRows (vtokens : List String) :
    (table.latestRows vtokens).Perm (table.joined (StatusRow.listed vtokens)) :=
  orderBy_perm _ _

lemma pairwise_latestRows (vtokens : List String) :
    (table.latestRows vtokens).Pairwise fun first second => second.id < first.id := by
  have hperm := @perm_latestRows table vtokens
  refine (List.Pairwise.and (pairwise_orderBy _ _) (hperm.nodup_iff.mpr nodup_joined)).imp_of_mem ?_
  rintro first second hfirst hsecond ⟨hle, hne⟩
  have hfirst := (mem_joined_iff.mp (hperm.mem_iff.mp hfirst)).mem
  have hsecond := (mem_joined_iff.mp (hperm.mem_iff.mp hsecond)).mem
  have hids : first.id ≠ second.id := fun hid => hne (eq_of_id hfirst hsecond hid)
  omega

/-- The latest row of a session does not depend on what else is asked for. -/
lemma latest_listed_iff {q : StatusRow → Bool} {vtokens : List String} {vtoken name : String}
    (hlisted : vtoken ∈ vtokens) {row : StatusRow} (hvtoken : row.vtoken = some vtoken)
    (hname : row.sessionName = name) :
    table.Latest (fun row => q row && row.listed vtokens) row ↔
      table.Latest (fun row => q row && row.inSession vtoken name) row := by
  have hsame : ∀ other : StatusRow, other.key = row.key →
      other.listed vtokens = other.inSession vtoken name := by
    intro other hkey
    obtain ⟨htoken, hsession⟩ := Prod.mk.inj hkey
    rw [hvtoken] at htoken
    rw [Bool.eq_iff_iff, StatusRow.listed, StatusRow.inSession]
    cases hother : other.vtoken with
    | none => simp
    | some own =>
      rw [hother] at htoken
      obtain rfl : own = vtoken := htoken
      simp [hlisted, hsession, hname]
  constructor <;> rintro ⟨hmem, hpicked, hlargest⟩
  · refine ⟨hmem, hsame row rfl ▸ hpicked, fun other hother hother' hkey => ?_⟩
    exact hlargest other hother (by rw [hsame other hkey]; exact hother') hkey
  · refine ⟨hmem, (hsame row rfl).symm ▸ hpicked, fun other hother hother' hkey => ?_⟩
    exact hlargest other hother (by rw [← hsame other hkey]; exact hother') hkey

/-- The entries of a token, from the rows of the table alone. -/
structure Entries (table : StatusTable) (vtoken : String) (entries : List SessionStatusEntry) :
    Prop where
  once : (entries.map SessionStatusEntry.sessionName).Nodup
  sessions : ∀ name, name ∈ entries.map SessionStatusEntry.sessionName ↔
    ∃ row ∈ table.rows, row.inSession vtoken name = true
  ordered : entries.Pairwise fun first second => ∀ row other,
    table.Latest (StatusRow.inSession vtoken first.sessionName) row →
      table.Latest (StatusRow.inSession vtoken second.sessionName) other → other.id < row.id
  waiting : ∀ entry ∈ entries, ∀ row,
    table.Latest (StatusRow.inSession vtoken entry.sessionName) row →
      (entry.waitingForReply = true ↔ row.role = "user")
  user : ∀ entry ∈ entries, ∀ row, table.Latest
    (fun row => decide (row.role = "user") && row.inSession vtoken entry.sessionName) row →
      entry.lastUserContent = some row.content ∧ entry.userMsgCreatedAt = some row.createdAt
  noUser : ∀ entry ∈ entries, (∀ row ∈ table.rows,
    row.inSession vtoken entry.sessionName = true → row.role ≠ "user") →
      entry.lastUserContent = none ∧ entry.userMsgCreatedAt = none

lemma mem_own_iff {vtokens : List String} {vtoken : String} {row : StatusRow} :
    row ∈ (table.latestRows vtokens).filter (fun row => row.vtoken.getD "" = vtoken) ↔
      vtoken ∈ vtokens ∧ row.vtoken = some vtoken ∧
        table.Latest (StatusRow.inSession vtoken row.sessionName) row := by
  rw [List.mem_filter, (perm_latestRows vtokens).mem_iff, mem_joined_iff, decide_eq_true_iff]
  constructor
  · rintro ⟨hlatest, htoken⟩
    obtain ⟨own, hlisted, hown⟩ := of_decide_eq_true hlatest.picked
    rw [hown] at htoken
    obtain rfl := htoken
    exact ⟨hlisted, hown, (@latest_listed_iff table (fun _ => true) _ _ _ hlisted _ hown rfl).mp
      hlatest⟩
  · rintro ⟨hlisted, hown, hlatest⟩
    exact ⟨(@latest_listed_iff table (fun _ => true) _ _ _ hlisted _ hown rfl).mpr hlatest,
      by rw [hown]; rfl⟩

/-- The early returns give what the loop over nothing gives. -/
lemma getAllSessionEntriesPerVtoken_eq (order : RowOrder) (vtokens : List String) :
    table.getAllSessionEntriesPerVtoken order vtokens =
      pushAll ∅ ((table.latestRows vtokens).map fun row =>
        (row.vtoken.getD "", table.entry order vtokens row)) := by
  unfold getAllSessionEntriesPerVtoken
  split
  · next hnil =>
    have hnone : table.latestRows vtokens = [] := by
      refine List.eq_nil_iff_forall_not_mem.mpr fun row hrow => ?_
      have hlatest := mem_joined_iff.mp ((perm_latestRows vtokens).mem_iff.mp hrow)
      obtain ⟨own, hlisted, -⟩ := of_decide_eq_true hlatest.picked
      simp [hnil] at hlisted
    rw [hnone]
    rfl
  · split
    · next hnone =>
      rw [hnone]
      rfl
    · rfl

section Entry

variable {order : RowOrder} {vtokens : List String} {row own : StatusRow}

lemma waitingForReply_entry (hrow : row ∈ table.latestRows vtokens) :
    (table.entry order vtokens row).waitingForReply = true ↔ row.role = "user" := by
  have hperm := @perm_latestRows table vtokens
  have hlatest := mem_joined_iff.mp (hperm.mem_iff.mp hrow)
  rw [entry, decide_eq_true_iff, lookup_collect_eq_some hperm StatusRow.role hlatest]
  rfl

lemma user_entry (hown : table.Latest
      (fun row => decide (row.role = "user") && row.listed vtokens) own)
    (hkey : own.key = row.key) :
    (table.entry order vtokens row).lastUserContent = some own.content ∧
      (table.entry order vtokens row).userMsgCreatedAt = some own.createdAt := by
  have hvalue := @lookup_collect_eq_some _ _ _ (table.userRows order vtokens) (order.perm _)
    (fun row => (row.content, row.createdAt)) _ hown
  rw [entry, ← hkey, hvalue]
  exact ⟨rfl, rfl⟩

lemma noUser_entry (hnone : ∀ own ∈ table.rows,
      (decide (own.role = "user") && own.listed vtokens) = true → own.key ≠ row.key) :
    (table.entry order vtokens row).lastUserContent = none ∧
      (table.entry order vtokens row).userMsgCreatedAt = none := by
  have hvalue := @lookup_collect_eq_none _ _ _ (table.userRows order vtokens) (order.perm _)
    (fun row => (row.content, row.createdAt)) _ hnone
  rw [entry, hvalue]
  exact ⟨rfl, rfl⟩

end Entry

lemma key_eq {vtoken : String} {row own : StatusRow} (hrow : row.vtoken = some vtoken)
    (hown : own.inSession vtoken row.sessionName = true) : own.key = row.key := by
  obtain ⟨htoken, hname⟩ := of_decide_eq_true hown
  rw [StatusRow.key, StatusRow.key, htoken, hrow, hname]

lemma entries_own {order : RowOrder} {vtokens : List String} {vtoken : String}
    (hlisted : vtoken ∈ vtokens) : table.Entries vtoken (((table.latestRows vtokens).filter
      fun row => row.vtoken.getD "" = vtoken).map (table.entry order vtokens)) := by
  have hown := fun row => (@mem_own_iff table vtokens vtoken row).trans (and_iff_right hlisted)
  have hsorted := (@pairwise_latestRows table vtokens).filter
    fun row => decide (row.vtoken.getD "" = vtoken)
  generalize hrows : ((table.latestRows vtokens).filter
    fun row => decide (row.vtoken.getD "" = vtoken)) = rows at hown hsorted
  have hsame : ∀ row ∈ rows, ∀ other,
      table.Latest (StatusRow.inSession vtoken row.sessionName) other → other = row := by
    intro row hrow other hother
    obtain ⟨htoken, hlatest⟩ := (hown row).mp hrow
    exact hother.eq hlatest (key_eq htoken hother.picked)
  refine ⟨?_, ?_, ?_, ?_, ?_, ?_⟩
  · rw [List.map_map, List.Nodup, List.pairwise_map]
    refine hsorted.imp_of_mem fun {first second} hfirst hsecond hlt hsessions => ?_
    have hsessions : first.sessionName = second.sessionName := hsessions
    have heq := hsame first hfirst second (hsessions ▸ ((hown second).mp hsecond).2)
    rw [heq] at hlt
    exact lt_irrefl _ hlt
  · intro name
    rw [List.map_map, List.mem_map]
    constructor
    · rintro ⟨row, hrow, rfl⟩
      have hlatest := ((hown row).mp hrow).2
      exact ⟨row, hlatest.mem, hlatest.picked⟩
    · rintro ⟨row, hrow, hsession⟩
      obtain ⟨latest, hlatest, -⟩ := exists_latest hrow hsession
      obtain ⟨htoken, rfl⟩ := of_decide_eq_true hlatest.picked
      exact ⟨latest, (hown latest).mpr ⟨htoken, hlatest⟩, rfl⟩
  · rw [List.pairwise_map]
    refine hsorted.imp_of_mem fun {first second} hfirst hsecond hlt row other hrow hother => ?_
    rw [hsame first hfirst row hrow, hsame second hsecond other hother]
    exact hlt
  · intro _ hentry own hlatest
    obtain ⟨row, hrow, rfl⟩ := List.mem_map.mp hentry
    rw [hsame row hrow own hlatest]
    exact waitingForReply_entry (List.mem_of_mem_filter (hrows ▸ hrow))
  · intro _ hentry own hlatest
    obtain ⟨row, hrow, rfl⟩ := List.mem_map.mp hentry
    obtain ⟨-, hsession⟩ := Bool.and_eq_true_iff.mp hlatest.picked
    obtain ⟨htoken, hname⟩ := of_decide_eq_true hsession
    exact user_entry ((latest_listed_iff hlisted htoken hname).mpr hlatest)
      (key_eq ((hown row).mp hrow).1 hsession)
  · intro _ hentry hnone
    obtain ⟨row, hrow, rfl⟩ := List.mem_map.mp hentry
    refine noUser_entry fun own hmem hpicked hkey => ?_
    obtain ⟨hrole, hown'⟩ := Bool.and_eq_true_iff.mp hpicked
    obtain ⟨token, -, htoken⟩ := of_decide_eq_true hown'
    obtain ⟨htokens, hname⟩ := Prod.mk.inj hkey
    rw [htoken, ((hown row).mp hrow).1] at htokens
    obtain rfl := htokens
    exact hnone own hmem (decide_eq_true ⟨htoken, hname⟩) (of_decide_eq_true hrole)

end StatusTable

end IlinkHub
