/-
The writes of the two authorization tables as data.  Every process that runs
against the store issues one of them per step, so what a step can do to a row
is said once, here.
-/
import IlinkHub.Store

namespace IlinkHub

inductive StoreOp where
  | skip
  | setActiveSessionName (pair : PairKey) (sessionName : String)
  | setActiveSessionWithDepth (pair : PairKey) (sessionName : String) (a2aDepth : UInt8)
  | deleteActiveSessionIfName (pair : PairKey) (sessionName : String)
  | setBackendSession (pair : PairKey) (sessionName backendSessionId : String)
  | setBackendSessionUsage (pair : PairKey) (sessionName usageJson : String)
  | deleteBackendSession (pair : PairKey) (sessionName : String)
deriving Repr, DecidableEq

def Store.apply (store : Store) (now : Int) : StoreOp → Store
  | .skip => store
  | .setActiveSessionName pair sessionName =>
    store.setActiveSessionName now pair sessionName
  | .setActiveSessionWithDepth pair sessionName a2aDepth =>
    store.setActiveSessionWithDepth now pair sessionName a2aDepth
  | .deleteActiveSessionIfName pair sessionName =>
    (store.deleteActiveSessionIfName pair sessionName).2
  | .setBackendSession pair sessionName backendSessionId =>
    store.setBackendSession pair sessionName backendSessionId
  | .setBackendSessionUsage pair sessionName usageJson =>
    store.setBackendSessionUsage pair sessionName usageJson
  | .deleteBackendSession pair sessionName =>
    (store.deleteBackendSession pair sessionName).2

/-- The operation as the store answers it: a failed one changes nothing. -/
def Store.attempt (store : Store) (ok : Bool) (now : Int) (op : StoreOp) : Store :=
  if ok then store.apply now op else store

namespace StoreOp

/-- The pair whose grant row the operation writes. -/
def activePair : StoreOp → Option PairKey
  | .setActiveSessionName pair _ => some pair
  | .setActiveSessionWithDepth pair _ _ => some pair
  | .deleteActiveSessionIfName pair _ => some pair
  | _ => none

/-- The named session the operation writes. -/
def backendKey : StoreOp → Option SessionKey
  | .setBackendSession pair sessionName _ => some ⟨pair, sessionName⟩
  | .setBackendSessionUsage pair sessionName _ => some ⟨pair, sessionName⟩
  | .deleteBackendSession pair sessionName => some ⟨pair, sessionName⟩
  | _ => none

/-- The grant row the operation writes: its pair and its session name. -/
def grants : StoreOp → Option (PairKey × String)
  | .setActiveSessionName pair name => some (pair, name)
  | .setActiveSessionWithDepth pair name _ => some (pair, name)
  | _ => none

/-- The operation writes a row of the pair. -/
def touches (op : StoreOp) (pair : PairKey) : Bool :=
  op.activePair = some pair || op.backendKey.map SessionKey.pair = some pair

variable {op : StoreOp}

lemma activePair_of_not_touches {pair : PairKey}
    (htouches : op.touches pair = false) : op.activePair ≠ some pair := by
  intro hactive
  simp [touches, hactive] at htouches

lemma backendKey_of_not_touches {pair : PairKey}
    (htouches : op.touches pair = false) (name : String) : op.backendKey ≠ some ⟨pair, name⟩ := by
  intro hkey
  simp [touches, hkey] at htouches

/-- The operation decides about the id of a named session. -/
def rewrites (op : StoreOp) (key : SessionKey) : Bool :=
  match op with
  | .setBackendSession pair name _ => (⟨pair, name⟩ : SessionKey) = key
  | .deleteBackendSession pair name => (⟨pair, name⟩ : SessionKey) = key
  | _ => false

lemma rewrites_eq_false {key : SessionKey}
    (hkey : op.backendKey ≠ some key) : op.rewrites key = false := by
  cases op with
  | setBackendSession pair name id =>
    exact decide_eq_false fun heq => hkey (congrArg some heq)
  | deleteBackendSession pair name =>
    exact decide_eq_false fun heq => hkey (congrArg some heq)
  | _ => rfl

/-- The named session that gets an id, and the id. -/
def written : StoreOp → Option (SessionKey × String)
  | .setBackendSession pair name id => some (⟨pair, name⟩, id)
  | _ => none

end StoreOp

namespace Store

variable {store : Store} {ok : Bool} {now : Int} {op : StoreOp} {pair : PairKey}

@[simp] lemma attempt_skip : store.attempt ok now .skip = store := by
  cases ok <;> rfl

lemma attempt_ok : store.attempt true now op = store.apply now op := rfl

@[simp] lemma attempt_failed : store.attempt false now op = store := rfl

@[simp] lemma grantTtlSecs_attempt :
    (store.attempt ok now op).grantTtlSecs = store.grantTtlSecs := by
  cases ok with
  | false => rfl
  | true =>
    cases op <;> simp [attempt, apply, setActiveSessionName,
      setActiveSessionWithDepth, setBackendSession, setBackendSessionUsage,
      deleteBackendSession]

lemma active_lookup_attempt_of_ne (hpair : op.activePair ≠ some pair) :
    (store.attempt ok now op).active.lookup pair = store.active.lookup pair := by
  cases ok with
  | false => rfl
  | true =>
    rw [attempt_ok]
    cases op with
    | setActiveSessionName target name =>
      have hne : pair ≠ target := fun heq => hpair (by rw [heq]; rfl)
      rw [apply, lookup_setActiveSessionName, if_neg hne]
    | setActiveSessionWithDepth target name depth =>
      have hne : pair ≠ target := fun heq => hpair (by rw [heq]; rfl)
      rw [apply, lookup_setActiveSessionWithDepth, if_neg hne]
    | deleteActiveSessionIfName target name =>
      have hne : pair ≠ target := fun heq => hpair (by rw [heq]; rfl)
      rw [apply, lookup_deleteActiveSessionIfName, if_neg fun h => hne h.1]
    | _ => rfl

lemma backend_lookup_attempt_of_ne {key : SessionKey} (hkey : op.backendKey ≠ some key) :
    (store.attempt ok now op).backend.lookup key = store.backend.lookup key := by
  cases ok with
  | false => rfl
  | true =>
    rw [attempt_ok]
    cases op with
    | setBackendSession pair name id =>
      have hne : key ≠ ⟨pair, name⟩ := fun heq => hkey (by rw [heq]; rfl)
      rw [apply, lookup_setBackendSession, if_neg hne]
    | setBackendSessionUsage pair name usage =>
      have hne : key ≠ ⟨pair, name⟩ := fun heq => hkey (by rw [heq]; rfl)
      rw [apply, lookup_setBackendSessionUsage, if_neg hne]
    | deleteBackendSession pair name =>
      have hne : key ≠ ⟨pair, name⟩ := fun heq => hkey (by rw [heq]; rfl)
      rw [apply, lookup_deleteBackendSession, if_neg hne]
    | deleteActiveSessionIfName pair name =>
      rw [apply, deleteActiveSessionIfName_backend]
    | _ => rfl

/-- A usage report keeps the id of its session. -/
lemma getBackendSession_attempt {name id : String}
    (hid : store.getBackendSession pair name = some id) (hop : op.rewrites ⟨pair, name⟩ = false) :
    (store.attempt ok now op).getBackendSession pair name = some id := by
  by_cases hkey : op.backendKey = some ⟨pair, name⟩
  · cases op with
    | setBackendSessionUsage target own usage =>
      obtain ⟨rfl, rfl⟩ := SessionKey.mk.inj (Option.some.inj hkey)
      cases ok with
      | false => exact hid
      | true =>
        rw [getBackendSession, attempt_ok, apply, lookup_setBackendSessionUsage, if_pos rfl, hid]
        rfl
    | setBackendSession target own written =>
      exact absurd (Option.some.inj hkey) (of_decide_eq_false hop)
    | deleteBackendSession target own =>
      exact absurd (Option.some.inj hkey) (of_decide_eq_false hop)
    | _ => cases hkey
  · rw [getBackendSession, backend_lookup_attempt_of_ne hkey]
    exact hid

/-- The grant row of the pair has this session name. -/
def GrantNamed (store : Store) (pair : PairKey) (name : String) : Prop :=
  (store.active.lookup pair).map ActiveRow.sessionName = some name

/-- A row of a given name was just written, or it was there and has not been
deleted. -/
lemma grantNamed_attempt {name : String}
    (hnamed : (store.attempt ok now op).GrantNamed pair name) :
    op.grants = some (pair, name) ∨ store.GrantNamed pair name ∧
        ¬ (ok = true ∧ op = .deleteActiveSessionIfName pair name) := by
  by_cases hpair : op.activePair = some pair
  · cases ok with
    | false => exact .inr ⟨hnamed, fun h => nomatch h.1⟩
    | true =>
      rw [GrantNamed, attempt_ok] at hnamed
      cases op with
      | setActiveSessionName target written =>
        cases hpair
        rw [apply, lookup_setActiveSessionName, if_pos rfl] at hnamed
        cases hnamed
        exact .inl rfl
      | setActiveSessionWithDepth target written depth =>
        cases hpair
        rw [apply, lookup_setActiveSessionWithDepth, if_pos rfl] at hnamed
        cases hnamed
        exact .inl rfl
      | deleteActiveSessionIfName target deleted =>
        cases hpair
        rw [apply, lookup_deleteActiveSessionIfName] at hnamed
        split at hnamed
        · cases hnamed
        · next hkept =>
          refine .inr ⟨hnamed, ?_⟩
          rintro ⟨-, hop⟩
          obtain rfl := (StoreOp.deleteActiveSessionIfName.inj hop).2
          exact hkept ⟨rfl, hnamed⟩
      | _ => cases hpair
  · rw [GrantNamed, active_lookup_attempt_of_ne hpair] at hnamed
    refine .inr ⟨hnamed, ?_⟩
    rintro ⟨-, rfl⟩
    exact hpair rfl

end Store

end IlinkHub
