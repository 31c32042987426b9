/-
Pairing sessions (`hub/pairing.rs`): a code is shown, scanned, confirmed and then
claimed, each within a limit of time.  Instants and durations are counted in
nanoseconds, and one call of the registry reads the clock once.
-/
import IlinkHub.Query

namespace IlinkHub

open Query

/-- A duration of whole seconds. -/
def secs (n : Nat) : Nat :=
  n * 1000000000

def pairingTtl : Nat :=
  secs 600

/-- How long a scanned session can be confirmed. -/
def scannedTtl : Nat :=
  secs 60

/-- How long a confirmed session is kept. -/
def confirmedTtl : Nat :=
  secs 86400

/-- How long after the confirmation the token can be read, any number of
times. -/
def vtokenClaimWindow : Nat :=
  secs 120

def maxPairingSessions : Nat :=
  1024

inductive PairingStatus where
  | wait
  | scanned
  | confirmed
  | expired
deriving Repr, DecidableEq

inductive PairingError where
  | notFound
  | expired
  | alreadyConfirmed
  | notScanned
  | csrfMismatch
  | tooManySessions
  | nameCollision
deriving Repr, DecidableEq

structure PairingSession where
  code : String
  createdAt : Nat
  scannedAt : Option Nat := none
  status : PairingStatus := .wait
  vtoken : Option String := none
  clientName : Option String := none
  clientLabel : Option String := none
  csrf : Option String := none
deriving Repr, DecidableEq

/-- The comparison of the header with the token.  It looks at every byte, and it
decides equality. -/
def constantTimeEq (a b : List UInt8) : Bool :=
  if a.length ≠ b.length then false
  else (a.zip b).foldl (fun diff pair => diff ||| (pair.1 ^^^ pair.2)) 0 = 0

namespace PairingSession

variable (session : PairingSession)

/-- A scanned session without the time of its scan goes by its creation. -/
def isExpired (now : Nat) : Bool :=
  match session.status with
  | .confirmed => false
  | .scanned =>
    match session.scannedAt with
    | some scannedAt => decide (scannedTtl < now - scannedAt)
    | none => decide (pairingTtl < now - session.createdAt)
  | .wait | .expired => decide (pairingTtl < now - session.createdAt)

def shouldEvict (now : Nat) : Bool :=
  match session.status with
  | .confirmed => decide (confirmedTtl < now - session.createdAt)
  | .scanned =>
    match session.scannedAt with
    | some scannedAt => decide (scannedTtl < now - scannedAt)
    | none => decide (pairingTtl < now - session.createdAt)
  | .wait | .expired => decide (pairingTtl < now - session.createdAt)

def publicStatus (now : Nat) : PairingStatus :=
  if session.isExpired now then .expired else session.status

/-- One of these is spelt as the SDK spells it. -/
def statusStr (now : Nat) : String :=
  match session.publicStatus now with
  | .wait => "wait"
  | .scanned => "scaned"
  | .confirmed => "confirmed"
  | .expired => "expired"

def csrfMatches (csrfHeader : String) : Bool :=
  match session.csrf with
  | some token =>
    constantTimeEq token.toUTF8.data.toList csrfHeader.toUTF8.data.toList
  | none => false

/-- The checks of a confirmation and of the check before it, in their order. -/
def checkConfirm (now : Nat) (csrfHeader : String) : Except PairingError Unit :=
  if session.isExpired now then .error .expired
  else if session.status = .confirmed then .error .alreadyConfirmed
  else if session.csrfMatches csrfHeader = false then .error .csrfMismatch
  else if session.status ≠ .scanned then .error .notScanned
  else .ok ()

/-- The session once it is confirmed; its token against forgery is used up. -/
def confirmed (clientName : String) (clientLabel : Option String)
    (vtoken : String) : PairingSession :=
  { session with
    csrf := none
    status := .confirmed
    vtoken := some vtoken
    clientName := some clientName
    clientLabel := clientLabel }

/-- The first scan sets the time, and a token where there is none. -/
def scanned (now : Nat) (newCsrf : String) : PairingSession :=
  let marked :=
    if session.status = .wait then
      { session with status := .scanned, scannedAt := some now }
    else session
  { marked with csrf := marked.csrf.or (some newCsrf) }

end PairingSession

/-- The confirmed sessions stand with the time of their confirmation. -/
structure PairingRegistry where
  sessions : AList fun _ : String => PairingSession
  confirmedSessions : AList fun _ : String => PairingSession × Nat

namespace PairingRegistry

def new : PairingRegistry :=
  ⟨∅, ∅⟩

variable (registry : PairingRegistry)

def purgeExpired (now : Nat) : PairingRegistry where
  sessions := retain (fun _ session => !session.shouldEvict now) registry.sessions
  confirmedSessions := retain (fun _ confirmed => decide (now - confirmed.2 < confirmedTtl))
    registry.confirmedSessions

/-- The number of sessions of both kinds. -/
def size : Nat :=
  registry.sessions.entries.length + registry.confirmedSessions.entries.length

/-- `uuid` is drawn for the code. -/
def create (now : Nat) (uuid : String) : Except PairingError String × PairingRegistry :=
  let purged := registry.purgeExpired now
  if maxPairingSessions ≤ purged.size then (.error .tooManySessions, purged)
  else
    let code := "pair_" ++ uuid
    (.ok code, { purged with
        sessions := purged.sessions.insert code { code := code, createdAt := now } })

def get (code : String) : Option PairingSession :=
  (registry.sessions.lookup code).or ((registry.confirmedSessions.lookup code).map Prod.fst)

/-- The session of a code, with its token if that may be handed out.  After the
window the token is cleared. -/
def claimConfirmedVtoken (now : Nat) (code : String) :
    Option (PairingSession × Option String) × PairingRegistry :=
  let purged := registry.purgeExpired now
  match purged.confirmedSessions.lookup code with
  | some (session, confirmedAt) =>
    if session.vtoken.isNone then (some (session, none), purged)
    else if now - confirmedAt < vtokenClaimWindow then
      (some (session, session.vtoken), purged)
    else
      let cleared := { session with vtoken := none }
      (some (cleared, none), { purged with
          confirmedSessions := purged.confirmedSessions.insert code (cleared, confirmedAt) })
  | none =>
    ((purged.sessions.lookup code).map fun session => (session, none), purged)

/-- `newCsrf` is generated for the first scan. -/
def markScanned (now : Nat) (code newCsrf : String) : Bool × PairingRegistry :=
  let purged := registry.purgeExpired now
  match purged.sessions.lookup code with
  | some session =>
    if session.isExpired now then
      (false, { purged with
          sessions := purged.sessions.insert code { session with status := .expired } })
    else
      (true, { purged with
          sessions := purged.sessions.insert code (session.scanned now newCsrf) })
  | none => (false, purged)

def preCheckConfirm (now : Nat) (code csrfHeader : String) :
    Except PairingError Unit × PairingRegistry :=
  let purged := registry.purgeExpired now
  if (purged.confirmedSessions.lookup code).isSome then
    (.error .alreadyConfirmed, purged)
  else
    match purged.sessions.lookup code with
    | none => (.error .notFound, purged)
    | some session => (session.checkConfirm now csrfHeader, purged)

/-- The session is taken out of the map before it is checked. -/
def confirm (now : Nat) (code clientName : String) (clientLabel : Option String)
    (vtoken csrfHeader : String) : Except PairingError Unit × PairingRegistry :=
  let purged := registry.purgeExpired now
  if (purged.confirmedSessions.lookup code).isSome then
    (.error .alreadyConfirmed, purged)
  else
    match purged.sessions.lookup code with
    | none => (.error .notFound, purged)
    | some session =>
      let taken :=
        { purged with sessions := purged.sessions.erase code }
      match session.checkConfirm now csrfHeader with
      | .error error => (.error error, taken)
      | .ok () =>
        (.ok (), { taken with
            confirmedSessions := taken.confirmedSessions.insert code
              (session.confirmed clientName clientLabel vtoken, now) })

def removeConfirmed (code : String) : PairingRegistry :=
  { registry with
    confirmedSessions := registry.confirmedSessions.erase code }

end PairingRegistry

lemma foldl_xor_eq_zero_iff (pairs : List (UInt8 × UInt8)) (diff : UInt8) :
    pairs.foldl (fun diff pair => diff ||| (pair.1 ^^^ pair.2)) diff = 0 ↔
      diff = 0 ∧ ∀ pair ∈ pairs, pair.1 = pair.2 := by
  induction pairs generalizing diff with
  | nil => simp
  | cons pair pairs ih =>
    rw [List.foldl_cons, ih, UInt8.or_eq_zero_iff, UInt8.xor_eq_zero_iff,
      List.forall_mem_cons, and_assoc]

lemma constantTimeEq_iff {a b : List UInt8} : constantTimeEq a b = true ↔ a = b := by
  unfold constantTimeEq
  split
  · next hlength => simpa using fun heq => hlength (congrArg List.length heq)
  · next hlength =>
    rw [decide_eq_true_iff, foldl_xor_eq_zero_iff, and_iff_right rfl]
    constructor
    · intro hall
      apply List.ext_getElem (not_not.mp hlength)
      intro i hleft hright
      have hi : i < (a.zip b).length := by
        rw [List.length_zip]
        exact lt_min hleft hright
      have hpair := hall _ (List.getElem_mem hi)
      rwa [List.getElem_zip] at hpair
    · rintro rfl pair hpair
      rw [List.zip, List.zipWith_self] at hpair
      obtain ⟨byte, -, rfl⟩ := List.mem_map.mp hpair
      rfl

namespace PairingSession

variable {session : PairingSession} {now : Nat} {csrfHeader : String}

lemma csrfMatches_iff : session.csrfMatches csrfHeader = true ↔ session.csrf = some csrfHeader := by
  rw [csrfMatches]
  split
  · next token hcsrf =>
    rw [hcsrf, constantTimeEq_iff, Array.toList_inj, Option.some.injEq, ← ByteArray.ext_iff]
    exact String.toByteArray_inj
  · next hcsrf => simp [hcsrf]

lemma isExpired_of_not_evict (hkept : session.shouldEvict now = false) :
    session.isExpired now = false := by
  unfold shouldEvict at hkept
  unfold isExpired
  cases hstatus : session.status with
  | confirmed => rfl
  | _ =>
    rw [hstatus] at hkept
    exact hkept

lemma checkConfirm_eq_ok_iff :
    session.checkConfirm now csrfHeader = .ok () ↔
      session.isExpired now = false ∧ session.status = .scanned ∧
        session.csrf = some csrfHeader := by
  rw [← csrfMatches_iff]
  unfold checkConfirm
  split
  · next hexpired => simp [hexpired]
  · next hexpired =>
    split
    · next hstatus => simp [hstatus]
    · split
      · next hcsrf => simp [hcsrf]
      · next hcsrf =>
        split
        · next hstatus => simp [hstatus]
        · next hstatus => simp [hexpired, hcsrf, not_not.mp hstatus]

end PairingSession

namespace PairingRegistry

variable {registry : PairingRegistry} {now : Nat} {code : String} {session : PairingSession}
  {uuid : String}

lemma lookup_sessions_purgeExpired :
    (registry.purgeExpired now).sessions.lookup code = some session ↔
      registry.sessions.lookup code = some session ∧ session.shouldEvict now = false := by
  rw [purgeExpired, lookup_retain, Option.filter_eq_some_iff, Bool.not_eq_true']

lemma lookup_confirmed_purgeExpired {confirmed : PairingSession × Nat} :
    (registry.purgeExpired now).confirmedSessions.lookup code = some confirmed ↔
      registry.confirmedSessions.lookup code = some confirmed ∧
        now - confirmed.2 < confirmedTtl := by
  rw [purgeExpired, lookup_retain, Option.filter_eq_some_iff, decide_eq_true_iff]

lemma size_purgeExpired_le : (registry.purgeExpired now).size ≤ registry.size :=
  Nat.add_le_add (List.length_filter_le ..) (List.length_filter_le ..)

/-- The purge is done when a call looks at the sessions. -/
lemma isExpired_of_purged
    (hsession : (registry.purgeExpired now).sessions.lookup code = some session) :
    session.isExpired now = false :=
  PairingSession.isExpired_of_not_evict (lookup_sessions_purgeExpired.mp hsession).2

/-- A token is handed out for a confirmed session that has it, within the
window. -/
lemma of_claimConfirmedVtoken {vtoken : String}
    (hclaim : (registry.claimConfirmedVtoken now code).1 = some (session, some vtoken)) :
    ∃ confirmedAt, registry.confirmedSessions.lookup code = some (session, confirmedAt) ∧
      session.vtoken = some vtoken ∧ now - confirmedAt < vtokenClaimWindow := by
  simp only [claimConfirmedVtoken] at hclaim
  cases hconfirmed : (registry.purgeExpired now).confirmedSessions.lookup code with
  | none => simp [hconfirmed] at hclaim
  | some confirmed =>
    obtain ⟨own, confirmedAt⟩ := confirmed
    simp only [hconfirmed] at hclaim
    split at hclaim
    · simp at hclaim
    · split at hclaim
      · next hwindow =>
        obtain ⟨rfl, hvtoken⟩ := Prod.mk.inj (Option.some.inj hclaim)
        exact ⟨confirmedAt, (lookup_confirmed_purgeExpired.mp hconfirmed).1, hvtoken, hwindow⟩
      · simp at hclaim

lemma preCheckConfirm_snd {csrfHeader : String} :
    (registry.preCheckConfirm now code csrfHeader).2 = registry.purgeExpired now := by
  simp only [preCheckConfirm]
  repeat' split
  all_goals rfl

/-- A session that is in the first map after a creation was there, or it is the
new one. -/
lemma of_sessions_create
    (hsession : (registry.create now uuid).2.sessions.lookup code = some session) :
    registry.sessions.lookup code = some session ∨
      code = "pair_" ++ uuid ∧ (registry.create now uuid).1 = .ok code ∧
        session = { code := code, createdAt := now } := by
  simp only [create] at hsession ⊢
  split at hsession
  · exact .inl (lookup_sessions_purgeExpired.mp hsession).1
  · next hroom =>
    rw [if_neg hroom]
    simp only [lookup_insert] at hsession
    split at hsession
    · next hcode =>
      right
      exact ⟨hcode, by rw [hcode], by rw [← Option.some.inj hsession, hcode]⟩
    · exact .inl (lookup_sessions_purgeExpired.mp hsession).1

lemma confirmedSessions_create :
    (registry.create now uuid).2.confirmedSessions =
      (registry.purgeExpired now).confirmedSessions := by
  simp only [create]
  split <;> rfl

variable {own newCsrf : String}

/-- The same of a scan, which changes the session that it finds. -/
lemma of_sessions_markScanned
    (hsession : (registry.markScanned now own newCsrf).2.sessions.lookup code = some session) :
    registry.sessions.lookup code = some session ∧
        ((registry.markScanned now own newCsrf).1 = true → own ≠ code) ∨
      own = code ∧ (registry.markScanned now own newCsrf).1 = true ∧
        ∃ old, registry.sessions.lookup code = some old ∧ session = old.scanned now newCsrf := by
  simp only [markScanned] at hsession ⊢
  cases hown : (registry.purgeExpired now).sessions.lookup own with
  | none =>
    simp only [hown] at hsession ⊢
    exact .inl ⟨(lookup_sessions_purgeExpired.mp hsession).1, nofun⟩
  | some old =>
    simp only [hown, isExpired_of_purged hown, Bool.false_eq_true, if_false,
      lookup_insert] at hsession ⊢
    split at hsession
    · next hcode =>
      subst hcode
      right
      exact ⟨rfl, trivial, old, (lookup_sessions_purgeExpired.mp hown).1,
        (Option.some.inj hsession).symm⟩
    · next hcode =>
      left
      exact ⟨(lookup_sessions_purgeExpired.mp hsession).1, fun _ => .symm hcode⟩

lemma confirmedSessions_markScanned :
    (registry.markScanned now own newCsrf).2.confirmedSessions =
      (registry.purgeExpired now).confirmedSessions := by
  simp only [markScanned]
  repeat' split
  all_goals rfl

lemma sessions_claimConfirmedVtoken :
    (registry.claimConfirmedVtoken now own).2.sessions = (registry.purgeExpired now).sessions := by
  simp only [claimConfirmedVtoken]
  repeat' split
  all_goals rfl

/-- A session that is in the second map after a claim was there, and its token
was handed out if it is the one that was asked for, or its token was cleared. -/
lemma of_confirmed_claim {confirmedAt : Nat}
    (hsession : (registry.claimConfirmedVtoken now own).2.confirmedSessions.lookup
      code = some (session, confirmedAt)) :
    registry.confirmedSessions.lookup code = some (session, confirmedAt) ∧
        (own = code → session.vtoken.isSome = true → (registry.claimConfirmedVtoken now own).1 =
            some (session, session.vtoken)) ∨
      ∃ old, registry.confirmedSessions.lookup code =
          some (old, confirmedAt) ∧ session = { old with vtoken := none } := by
  simp only [claimConfirmedVtoken] at hsession ⊢
  cases hown : (registry.purgeExpired now).confirmedSessions.lookup own with
  | none =>
    simp only [hown] at hsession ⊢
    left
    refine ⟨(lookup_confirmed_purgeExpired.mp hsession).1, ?_⟩
    rintro rfl
    simp [hown] at hsession
  | some found =>
    obtain ⟨old, confirmedTime⟩ := found
    simp only [hown] at hsession ⊢
    split at hsession
    · next hcleared =>
      left
      refine ⟨(lookup_confirmed_purgeExpired.mp hsession).1, ?_⟩
      rintro rfl hvtoken
      cases hown.symm.trans hsession
      rw [Option.isNone_iff_eq_none] at hcleared
      simp [hcleared] at hvtoken
    · next hheld =>
      rw [if_neg hheld]
      split at hsession
      · next hwindow =>
        left
        refine ⟨(lookup_confirmed_purgeExpired.mp hsession).1, ?_⟩
        rintro rfl -
        cases hown.symm.trans hsession
        rw [if_pos hwindow]
      · simp only [lookup_insert] at hsession
        split at hsession
        · next hcode =>
          subst hcode
          right
          cases hsession
          exact ⟨old, (lookup_confirmed_purgeExpired.mp hown).1, rfl⟩
        · next hcode =>
          left
          exact ⟨(lookup_confirmed_purgeExpired.mp hsession).1, fun hown => absurd hown.symm hcode⟩

/-- Only a creation adds a session, and it does so where there is room. -/
lemma size_create_le (hsize : (registry.purgeExpired now).size ≤ maxPairingSessions) :
    (registry.create now uuid).2.size ≤ maxPairingSessions := by
  simp only [create]
  split
  · exact hsize
  · next hroom =>
    have hlength := length_erase_le (registry.purgeExpired now).sessions ("pair_" ++ uuid)
    simp only [size, length_insert] at hroom ⊢
    omega

lemma size_markScanned_le :
    (registry.markScanned now own newCsrf).2.size ≤ (registry.purgeExpired now).size := by
  simp only [markScanned]
  cases hown : (registry.purgeExpired now).sessions.lookup own with
  | none => exact le_rfl
  | some old =>
    have hlength := length_erase_of_isSome (Option.isSome_of_mem hown)
    simp only [isExpired_of_purged hown, Bool.false_eq_true, if_false, size, length_insert]
    omega

lemma size_claimConfirmedVtoken_le :
    (registry.claimConfirmedVtoken now own).2.size ≤ (registry.purgeExpired now).size := by
  simp only [claimConfirmedVtoken]
  cases hown : (registry.purgeExpired now).confirmedSessions.lookup own with
  | none => exact le_rfl
  | some found =>
    have hlength := length_erase_of_isSome (Option.isSome_of_mem hown)
    simp only
    split
    · exact le_rfl
    · split
      · exact le_rfl
      · simp only [size, length_insert]
        omega

lemma size_removeConfirmed_le : (registry.removeConfirmed own).size ≤ registry.size := by
  have hlength := length_erase_le registry.confirmedSessions own
  simp only [removeConfirmed, size]
  omega

section Confirm
variable {clientName vtoken csrfHeader : String} {clientLabel : Option String}
  {session : PairingSession}

lemma confirm_of_confirmed (hconfirmed : ((registry.purgeExpired now).confirmedSessions.lookup
      code).isSome = true) :
    registry.confirm now code clientName clientLabel vtoken csrfHeader =
      (.error .alreadyConfirmed, registry.purgeExpired now) := if_pos hconfirmed

lemma confirm_of_none
    (hconfirmed : (registry.purgeExpired now).confirmedSessions.lookup code = none)
    (hnone : (registry.purgeExpired now).sessions.lookup code = none) :
    registry.confirm now code clientName clientLabel vtoken csrfHeader =
      (.error .notFound, registry.purgeExpired now) := by
  simp [confirm, hconfirmed, hnone]

lemma confirm_of_session
    (hconfirmed : (registry.purgeExpired now).confirmedSessions.lookup code = none)
    (hsession : (registry.purgeExpired now).sessions.lookup code = some session) :
    registry.confirm now code clientName clientLabel vtoken csrfHeader =
      (session.checkConfirm now csrfHeader,
        { sessions := (registry.purgeExpired now).sessions.erase code
          confirmedSessions :=
            match session.checkConfirm now csrfHeader with
            | .ok () =>
              (registry.purgeExpired now).confirmedSessions.insert code
                (session.confirmed clientName clientLabel vtoken, now)
            | .error _ =>
              (registry.purgeExpired now).confirmedSessions }) := by
  simp only [confirm, hconfirmed, hsession]
  cases session.checkConfirm now csrfHeader with
  | ok _ => rfl
  | error _ => rfl

/-- A confirmation that succeeds has found a scanned session with its token, in
time, and the code has no session in the first map any more. -/
lemma of_confirm_ok (hok : (registry.confirm now code clientName clientLabel vtoken
      csrfHeader).1 = .ok ()) :
    ∃ session, registry.sessions.lookup code = some session ∧
      session.isExpired now = false ∧ session.status = .scanned ∧
      session.csrf = some csrfHeader ∧
      registry.confirm now code clientName clientLabel vtoken csrfHeader = (.ok (),
          { sessions := (registry.purgeExpired now).sessions.erase code
            confirmedSessions :=
              (registry.purgeExpired now).confirmedSessions.insert code
                (session.confirmed clientName clientLabel vtoken, now) }) ∧
      (registry.purgeExpired now).sessions.lookup code = some session ∧
      (registry.purgeExpired now).confirmedSessions.lookup code = none := by
  cases hconfirmed : (registry.purgeExpired now).confirmedSessions.lookup code with
  | some confirmed =>
    simp [confirm_of_confirmed (Option.isSome_of_mem hconfirmed)] at hok
  | none =>
    cases hsession : (registry.purgeExpired now).sessions.lookup code with
    | none =>
      simp [confirm_of_none hconfirmed hsession] at hok
    | some session =>
      rw [confirm_of_session hconfirmed hsession] at hok ⊢
      have hchecked := PairingSession.checkConfirm_eq_ok_iff.mp hok
      refine ⟨session, (lookup_sessions_purgeExpired.mp hsession).1,
        hchecked.1, hchecked.2.1, hchecked.2.2, ?_, rfl, rfl⟩
      simp only at hok
      rw [hok]

/-- A confirmation that fails only takes a session away. -/
lemma of_confirm_error {error : PairingError}
    (herror : (registry.confirm now code clientName clientLabel vtoken
      csrfHeader).1 = .error error) :
    ((registry.confirm now code clientName clientLabel vtoken
        csrfHeader).2.sessions = (registry.purgeExpired now).sessions ∨
      (registry.confirm now code clientName clientLabel vtoken
        csrfHeader).2.sessions = (registry.purgeExpired now).sessions.erase code) ∧
      (registry.confirm now code clientName clientLabel vtoken
        csrfHeader).2.confirmedSessions = (registry.purgeExpired now).confirmedSessions := by
  cases hconfirmed : (registry.purgeExpired now).confirmedSessions.lookup code with
  | some confirmed =>
    rw [confirm_of_confirmed (Option.isSome_of_mem hconfirmed)]
    exact ⟨.inl rfl, rfl⟩
  | none =>
    cases hsession : (registry.purgeExpired now).sessions.lookup code with
    | none =>
      rw [confirm_of_none hconfirmed hsession]
      exact ⟨.inl rfl, rfl⟩
    | some session =>
      rw [confirm_of_session hconfirmed hsession] at herror ⊢
      simp only at herror
      simp [herror]

lemma size_confirm_le :
    (registry.confirm now code clientName clientLabel vtoken csrfHeader).2.size ≤
      (registry.purgeExpired now).size := by
  have hsessions := length_erase_le (registry.purgeExpired now).sessions code
  simp only [size]
  cases hresult : (registry.confirm now code clientName clientLabel vtoken csrfHeader).1 with
  | error error =>
    rw [(of_confirm_error hresult).2]
    rcases (of_confirm_error hresult).1 with hkept | htaken
    · rw [hkept]
    · rw [htaken]
      omega
  | ok done =>
    -- The session goes from one map to the other.
    obtain ⟨old, -, -, -, -, hafter, hfound, -⟩ := of_confirm_ok hresult
    have hmoved := length_erase_of_isSome (Option.isSome_of_mem hfound)
    have hconfirmed := length_erase_le (registry.purgeExpired now).confirmedSessions code
    simp only [hafter, length_insert]
    omega

/-- What a confirmation leaves in the first map was there, under another code if
it succeeds. -/
lemma of_sessions_confirm {own : String}
    (hsession : (registry.confirm now own clientName clientLabel vtoken
      csrfHeader).2.sessions.lookup code = some session) :
    registry.sessions.lookup code = some session ∧
      ((registry.confirm now own clientName clientLabel vtoken csrfHeader).1 =
        .ok () → own ≠ code) := by
  cases hresult : (registry.confirm now own clientName clientLabel vtoken csrfHeader).1 with
  | error error =>
    refine ⟨?_, nofun⟩
    rcases (of_confirm_error hresult).1 with hkept | htaken
    · rw [hkept] at hsession
      exact (lookup_sessions_purgeExpired.mp hsession).1
    · rw [htaken, lookup_erase] at hsession
      split at hsession
      · cases hsession
      · exact (lookup_sessions_purgeExpired.mp hsession).1
  | ok done =>
    obtain ⟨_, -, -, -, -, hafter, -⟩ := of_confirm_ok hresult
    rw [hafter] at hsession
    simp only [lookup_erase] at hsession
    split at hsession
    · cases hsession
    · next hcode =>
      exact ⟨(lookup_sessions_purgeExpired.mp hsession).1, fun _ => .symm hcode⟩

/-- What it leaves in the second map was there, or was confirmed just now. -/
lemma of_confirmed_confirm {own : String} {confirmedAt : Nat}
    (hsession : (registry.confirm now own clientName clientLabel vtoken
      csrfHeader).2.confirmedSessions.lookup code = some (session, confirmedAt)) :
    registry.confirmedSessions.lookup code = some (session, confirmedAt) ∨
      own = code ∧ now = confirmedAt ∧
        (registry.confirm now own clientName clientLabel vtoken csrfHeader).1 = .ok () ∧
        ∃ old : PairingSession, session = old.confirmed clientName clientLabel vtoken := by
  cases hresult : (registry.confirm now own clientName clientLabel vtoken csrfHeader).1 with
  | error error =>
    rw [(of_confirm_error hresult).2] at hsession
    exact .inl (lookup_confirmed_purgeExpired.mp hsession).1
  | ok done =>
    obtain ⟨old, -, -, -, -, hafter, -⟩ := of_confirm_ok hresult
    rw [hafter] at hsession
    simp only [lookup_insert] at hsession
    split at hsession
    · next hcode =>
      cases hsession
      exact .inr ⟨hcode.symm, rfl, rfl, old, rfl⟩
    · exact .inl (lookup_confirmed_purgeExpired.mp hsession).1

/-- The call finds a session that it may not confirm. -/
def Rejects (registry : PairingRegistry) (now : Nat) (code csrfHeader : String) : Prop :=
  (registry.purgeExpired now).confirmedSessions.lookup code = none ∧ ∃ session,
      (registry.purgeExpired now).sessions.lookup code = some session ∧ session.status ≠
      .confirmed ∧ ¬ (session.csrf = some csrfHeader ∧ session.status = .scanned)

/-- The two errors of a session that is there and not confirmed. -/
lemma confirm_error_iff :
    ((registry.confirm now code clientName clientLabel vtoken csrfHeader).1 = .error .csrfMismatch ∨
      (registry.confirm now code clientName clientLabel vtoken csrfHeader).1 =
        .error .notScanned) ↔ registry.Rejects now code csrfHeader := by
  unfold Rejects
  cases hconfirmed : (registry.purgeExpired now).confirmedSessions.lookup code with
  | some confirmed =>
    rw [confirm_of_confirmed (Option.isSome_of_mem hconfirmed)]
    simp
  | none =>
    cases hsession : (registry.purgeExpired now).sessions.lookup code with
    | none =>
      rw [confirm_of_none hconfirmed hsession]
      simp
    | some session =>
      rw [confirm_of_session hconfirmed hsession]
      have hexpired := isExpired_of_purged hsession
      simp only [PairingSession.checkConfirm, hexpired, ← PairingSession.csrfMatches_iff]
      by_cases hstatus : session.status = .confirmed
      · simp [hstatus]
      · by_cases hcsrf : session.csrfMatches csrfHeader = true
        · by_cases hscanned : session.status = .scanned
          · simp [hcsrf, hscanned]
          · simp [hstatus, hscanned]
        · simp [hstatus, hcsrf]

/-- What is left of a session can be confirmed with its own token, as long as it
is not expired. -/
def Confirmable (registry : PairingRegistry) (code : String) : Prop :=
  ∀ session token later clientName clientLabel vtoken, registry.sessions.lookup code = some
    session → session.status = .scanned → session.csrf = some token → session.isExpired later =
    false → (registry.confirm later code clientName clientLabel vtoken token).1 = .ok ()

/-- A confirmation that fails on the token or on the status would have to leave
the registry as the purge does, so that the holder of the token can still
confirm.  It takes the session out of the map before it checks it, so it does
exactly when it does not fail so: no session that waits for its confirmation
stands under the code, or the session is scanned and the token is its own. -/
theorem confirm_keeps_session_iff :
    ((registry.confirm now code clientName clientLabel vtoken csrfHeader).1 = .error .csrfMismatch ∨
      (registry.confirm now code clientName clientLabel vtoken csrfHeader).1 = .error .notScanned →
      (registry.confirm now code clientName clientLabel vtoken csrfHeader).2 =
          registry.purgeExpired now ∧
        (registry.confirm now code clientName clientLabel vtoken csrfHeader).2.Confirmable code) ↔
      ¬ registry.Rejects now code csrfHeader := by
  rw [confirm_error_iff]
  constructor
  · intro hkeeps hrejects
    have hafter := (hkeeps hrejects).1
    obtain ⟨hconfirmed, session, hsession, -⟩ := hrejects
    have hsame := congrArg (fun own => own.sessions.lookup code) hafter
    rw [confirm_of_session hconfirmed hsession] at hsame
    simp [hsession] at hsame
  · intro hnot hrejects
    exact absurd hrejects hnot

end Confirm

end PairingRegistry

/-- A session whose code was scanned; its token is `c`. -/
def Sample.scannedPairing : PairingRegistry :=
  ((PairingRegistry.new.create 0 "1").2.markScanned 0 "pair_1" "c").2

/-- Someone who does not have the token ends the session for the one who has
it. -/
theorem PairingRegistry.confirm_consumes_session :
    (Sample.scannedPairing.confirm 1 "pair_1" "bot" none "vhub_1" "x").1 = .error .csrfMismatch ∧
      (Sample.scannedPairing.confirm 1 "pair_1" "bot" none "vhub_1" "x").2 ≠
        Sample.scannedPairing.purgeExpired 1 ∧
      (Sample.scannedPairing.confirm 2 "pair_1" "bot" none "vhub_2" "c").1 = .ok () ∧
      ((Sample.scannedPairing.confirm 1 "pair_1" "bot" none "vhub_1"
        "x").2.confirm 2 "pair_1" "bot" none "vhub_2" "c").1 = .error .notFound := by
  refine ⟨by decide +kernel, ?_, by decide +kernel, by decide +kernel⟩
  intro hsame
  have hlookup := congrArg (fun own => (own.sessions.lookup "pair_1").isSome) hsame
  revert hlookup
  decide +kernel

end IlinkHub
