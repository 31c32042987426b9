/-
`get_hub_ext_batch` of `store/sessions.rs` as the program computes it: chunks of
pairs, two queries for each of them, and maps in between.  It refines the lookup
of single pairs.
-/
import IlinkHub.Query
import IlinkHub.Store

namespace IlinkHub

open Query

/-- The order in which a database returns the rows of a query. -/
structure RowOrder where
  arrange : {α : Type} → List α → List α
  perm : ∀ {α : Type} (rows : List α), (arrange rows).Perm rows

/-- The order in which the model keeps them. -/
def RowOrder.stored : RowOrder :=
  ⟨fun rows => rows, fun rows => List.Perm.refl rows⟩

lemma RowOrder.mem_arrange (order : RowOrder) {α : Type} {rows : List α}
    {row : α} : row ∈ order.arrange rows ↔ row ∈ rows :=
  (order.perm rows).mem_iff

namespace Store

/-- The rows of `active_sessions` for one of the pairs. -/
def activeRows (store : Store) (pairs : List PairKey) : List (PairKey × String) :=
  (store.active.entries.filter fun entry => entry.1 ∈ pairs).map fun entry =>
    (entry.1, entry.2.sessionName)

/-- The rows of `backend_sessions_v2` for one of the sessions. -/
def sessionRows (store : Store) (resolved : List (PairKey × String)) : List (PairKey × String) :=
  (store.backend.entries.filter fun entry =>
    (entry.1.pair, entry.1.sessionName) ∈ resolved).map fun entry =>
      (entry.1.pair, entry.2.backendSessionId)

/-- The names of the active sessions of the pairs. -/
def resolvedNames (order : RowOrder) (store : Store) (pairs : List PairKey) :
    List (PairKey × String) :=
  let sessionMap := collect (order.arrange (store.activeRows pairs))
  pairs.map fun pair =>
    (pair, ((sessionMap.lookup pair).filter fun name => name ≠ "").getD "default")

def getHubExtBatchInner (order : RowOrder) (store : Store)
    (pairs : List PairKey) : AList fun _ : PairKey => String × Option String :=
  let resolved := store.resolvedNames order pairs
  let sidMap := collect (order.arrange (store.sessionRows resolved))
  collect (resolved.map fun entry =>
    (entry.1, entry.2, (sidMap.lookup entry.1).bind nonBlank))

/-- Lists of more than 200 pairs are looked up in chunks. -/
def getHubExtBatchMap (order : RowOrder) (store : Store)
    (pairs : List PairKey) : AList fun _ : PairKey => String × Option String :=
  if pairs = [] then ∅
  else if 200 < pairs.length then
    (Query.chunks 200 pairs).foldl (fun merged chunk => extend merged
        ((store.getHubExtBatchInner order chunk).entries.map fun entry =>
          (entry.1, entry.2))) ∅
  else store.getHubExtBatchInner order pairs

section Queries

variable {order : RowOrder} {store : Store} {pairs : List PairKey} {pair : PairKey}

lemma lookup_activeRows (hpair : pair ∈ pairs) :
    (collect (order.arrange (store.activeRows pairs))).lookup pair =
      (store.active.lookup pair).map ActiveRow.sessionName := by
  have hrows : ∀ row, row ∈ order.arrange (store.activeRows pairs) →
      ∃ active, store.active.lookup row.1 = some active ∧ active.sessionName = row.2 := by
    intro row hrow
    obtain ⟨entry, hentry, rfl⟩ :=
      List.mem_map.mp (order.mem_arrange.mp hrow)
    exact ⟨entry.2, lookup_eq_some_iff.mpr (List.mem_filter.mp hentry).1, rfl⟩
  cases hlookup : store.active.lookup pair with
  | none =>
    apply lookup_extend_of_forall_ne
    rintro row hrow rfl
    obtain ⟨active, hactive, -⟩ := hrows row hrow
    simp [hlookup] at hactive
  | some active =>
    apply lookup_extend_of_agree
    · rintro row hrow rfl
      obtain ⟨other, hother, hname⟩ := hrows row hrow
      rw [hlookup] at hother
      rw [Option.some.inj hother, hname]
    · refine ⟨(pair, active.sessionName), ?_, rfl⟩
      rw [order.mem_arrange, activeRows, List.mem_map]
      refine ⟨⟨pair, active⟩, List.mem_filter.mpr ⟨?_, ?_⟩, rfl⟩
      · exact lookup_eq_some_iff.mp hlookup
      · exact decide_eq_true hpair

/-- A pair is looked up under the name that the store has for it. -/
lemma resolvedNames_eq :
    store.resolvedNames order pairs =
      pairs.map fun pair => (pair, store.getActiveSessionName pair) := by
  apply List.map_congr_left
  intro pair hpair
  rw [lookup_activeRows hpair]
  rfl

/-- The second query has one row at most for each pair, since the pair goes with
one name. -/
lemma lookup_sessionRows (hpair : pair ∈ pairs) :
    (collect (order.arrange (store.sessionRows (store.resolvedNames order pairs)))).lookup
      pair = store.getBackendSession pair (store.getActiveSessionName pair) := by
  have hrows : ∀ row, row ∈ order.arrange (store.sessionRows (store.resolvedNames order pairs)) →
      store.getBackendSession row.1 (store.getActiveSessionName row.1) =
        some row.2 := by
    intro row hrow
    obtain ⟨⟨key, backend⟩, hentry, rfl⟩ :=
      List.mem_map.mp (order.mem_arrange.mp hrow)
    obtain ⟨hmem, hwhere⟩ := List.mem_filter.mp hentry
    rw [decide_eq_true_iff, resolvedNames_eq, List.mem_map] at hwhere
    obtain ⟨own, -, hown⟩ := hwhere
    obtain ⟨rfl, hname⟩ := Prod.mk.inj hown
    have hlookup := lookup_eq_some_iff.mpr hmem
    rw [getBackendSession, hname, hlookup]
    rfl
  cases hlookup : store.getBackendSession pair (store.getActiveSessionName pair) with
  | none =>
    apply lookup_extend_of_forall_ne
    rintro row hrow rfl
    have hrow := hrows row hrow
    simp [hlookup] at hrow
  | some sid =>
    apply lookup_extend_of_agree
    · rintro row hrow rfl
      have hrow := hrows row hrow
      rw [hlookup] at hrow
      exact (Option.some.inj hrow).symm
    · obtain ⟨backend, hbackend, rfl⟩ := Option.map_eq_some_iff.mp hlookup
      refine ⟨(pair, backend.backendSessionId), ?_, rfl⟩
      rw [order.mem_arrange, sessionRows, List.mem_map]
      refine ⟨⟨⟨pair, store.getActiveSessionName pair⟩, backend⟩, List.mem_filter.mpr ⟨?_, ?_⟩, rfl⟩
      · exact lookup_eq_some_iff.mp hbackend
      · rw [decide_eq_true_iff, resolvedNames_eq, List.mem_map]
        exact ⟨pair, hpair, rfl⟩

lemma lookup_getHubExtBatchInner (order : RowOrder) (store : Store) (pairs : List PairKey)
    (pair : PairKey) :
    (store.getHubExtBatchInner order pairs).lookup pair = store.getHubExtBatch pairs pair := by
  have hrows : ∀ row ∈ (store.resolvedNames order pairs).map fun entry =>
      (entry.1, entry.2, ((collect (order.arrange (store.sessionRows
        (store.resolvedNames order pairs)))).lookup entry.1).bind nonBlank),
      row.1 ∈ pairs ∧ some row.2 = store.getHubExtBatch pairs row.1 := by
    intro row hrow
    obtain ⟨entry, hentry, rfl⟩ := List.mem_map.mp hrow
    rw [resolvedNames_eq] at hentry
    obtain ⟨own, hown, rfl⟩ := List.mem_map.mp hentry
    refine ⟨hown, ?_⟩
    rw [lookup_sessionRows hown, getHubExtBatch, if_pos hown]
  by_cases hpair : pair ∈ pairs
  · have hvalue : store.getHubExtBatch pairs pair = some _ := if_pos hpair
    rw [hvalue]
    apply lookup_extend_of_agree
    · rintro row hrow rfl
      exact Option.some.inj ((hrows row hrow).2.trans hvalue)
    · exact ⟨_, List.mem_map_of_mem (List.mem_map_of_mem hpair), rfl⟩
  · rw [getHubExtBatch, if_neg hpair]
    apply lookup_extend_of_forall_ne
    rintro row hrow rfl
    exact hpair (hrows row hrow).1

lemma lookup_foldl_extend {chunks : List (List PairKey)}
    {merged : AList fun _ => String × Option String} :
    (chunks.foldl (fun merged chunk => extend merged
      ((store.getHubExtBatchInner order chunk).entries.map fun entry =>
        (entry.1, entry.2))) merged).lookup pair =
      if ∃ chunk ∈ chunks, pair ∈ chunk then
        store.getHubExtBatch [pair] pair
      else merged.lookup pair := by
  induction chunks generalizing merged with
  | nil => simp
  | cons chunk chunks ih =>
    rw [List.foldl_cons, ih]
    by_cases hlater : ∃ other ∈ chunks, pair ∈ other
    · obtain ⟨other, hother, hpair⟩ := hlater
      rw [if_pos ⟨other, hother, hpair⟩, if_pos ⟨other, List.mem_cons_of_mem chunk hother, hpair⟩]
    · rw [if_neg hlater]
      have hrows : ∀ row ∈ (store.getHubExtBatchInner order
          chunk).entries.map fun entry => (entry.1, entry.2),
          store.getHubExtBatch chunk row.1 = some row.2 := by
        intro row hrow
        obtain ⟨entry, hentry, rfl⟩ := List.mem_map.mp hrow
        rw [← lookup_getHubExtBatchInner order]
        exact lookup_eq_some_iff.mpr hentry
      by_cases hpair : pair ∈ chunk
      · rw [if_pos ⟨chunk, List.mem_cons_self, hpair⟩]
        have hvalue : store.getHubExtBatch chunk pair = store.getHubExtBatch [pair] pair := by
          rw [getHubExtBatch, getHubExtBatch, if_pos hpair, if_pos (List.mem_singleton.mpr rfl)]
        have hsome : store.getHubExtBatch [pair] pair = some _ :=
          if_pos (List.mem_singleton.mpr rfl)
        rw [hsome] at hvalue ⊢
        apply lookup_extend_of_agree
        · rintro row hrow rfl
          exact Option.some.inj ((hrows row hrow).symm.trans hvalue)
        · rw [← lookup_getHubExtBatchInner order] at hvalue
          exact ⟨_, List.mem_map_of_mem (lookup_eq_some_iff.mp hvalue), rfl⟩
      · rw [if_neg]
        · apply lookup_extend_of_forall_ne
          rintro row hrow rfl
          have hnone : store.getHubExtBatch chunk row.1 = none :=
            if_neg hpair
          simp [hrows row hrow] at hnone
        · rintro ⟨other, hother, hmem⟩
          rcases List.mem_cons.mp hother with rfl | htail
          · exact hpair hmem
          · exact hlater ⟨other, htail, hmem⟩

/-- The chunks make no difference. -/
lemma lookup_getHubExtBatchMap (order : RowOrder) (store : Store) (pairs : List PairKey)
    (pair : PairKey) :
    (store.getHubExtBatchMap order pairs).lookup pair = store.getHubExtBatch pairs pair := by
  unfold getHubExtBatchMap
  split
  · next hnil =>
    subst hnil
    rfl
  · split
    · have hchunks : pair ∈ pairs ↔ ∃ chunk ∈ chunks 200 pairs, pair ∈ chunk :=
        mem_iff_mem_chunks (by decide)
      rw [lookup_foldl_extend]
      by_cases hpair : pair ∈ pairs
      · rw [if_pos (hchunks.mp hpair), getHubExtBatch, getHubExtBatch,
          if_pos hpair, if_pos (List.mem_singleton.mpr rfl)]
      · rw [if_neg (mt hchunks.mpr hpair), getHubExtBatch, if_neg hpair]
        rfl
    · exact lookup_getHubExtBatchInner order store pairs pair

end Queries

/-- No active session has the empty name. -/
def NamesNonEmpty (store : Store) : Prop :=
  ∀ pair row, store.active.lookup pair = some row → row.sessionName ≠ ""

lemma NamesNonEmpty.getActiveSessionName {store : Store}
    (hnames : store.NamesNonEmpty) (pair : PairKey) :
    store.getActiveSessionName pair = ((store.active.lookup pair).map ActiveRow.sessionName).getD
        "default" := by
  unfold Store.getActiveSessionName
  cases hlookup : store.active.lookup pair with
  | none => rfl
  | some row =>
    have hname := hnames pair row hlookup
    rw [Option.map_some, Option.filter_some, if_pos (decide_eq_true hname)]

/-- The map has the listed pairs, each with the answer of the single query. -/
theorem getHubExtBatchMap_eq_single (order : RowOrder) (store : Store)
    (hnames : store.NamesNonEmpty) (pairs : List PairKey) (pair : PairKey) :
    (store.getHubExtBatchMap order pairs).lookup pair =
      if pair ∈ pairs then some (store.getHubExtSingle pair) else none := by
  rw [lookup_getHubExtBatchMap, getHubExtBatch, hnames.getActiveSessionName pair]
  rfl

/-- Two mentions of one pair and a pair without any row. -/
theorem getHubExtBatchMap_eq_single_of_two :
    let own : PairKey := ⟨"vctx_1", "h1"⟩
    let other : PairKey := ⟨"vctx_1", "h2"⟩
    let store : Store := ⟨∅, (∅ : AList fun _ : PairKey => ActiveRow).insert
      own ⟨"work", 0, 0⟩, (∅ : AList fun _ : SessionKey => BackendRow).insert
        ⟨own, "work"⟩ ⟨"sid", none⟩, 86400⟩
    store.NamesNonEmpty ∧ (store.getHubExtBatchMap .stored [own, other, own]).lookup own =
        some ("work", some "sid") ∧
      (store.getHubExtBatchMap .stored [own, other, own]).lookup other =
        some ("default", none) := by
  intro own other store
  have hnames : store.NamesNonEmpty := by
    intro pair row hrow
    rw [lookup_insert] at hrow
    split at hrow
    · cases hrow
      decide
    · cases hrow
  have hown := getHubExtBatchMap_eq_single .stored store hnames [own, other, own] own
  have hother := getHubExtBatchMap_eq_single .stored store hnames [own, other, own] other
  exact ⟨hnames, hown.trans (by decide), hother.trans (by decide)⟩

end Store

end IlinkHub
