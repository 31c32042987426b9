/-
Any sequence of calls of the pairing registry (`hub/pairing.rs`), at times that
do not go back and with codes that are drawn once: what the two maps hold, when a
confirmation succeeds, and for how long the token of a confirmed code is handed
out.
-/
import IlinkHub.History
import IlinkHub.Pairing

namespace IlinkHub

open History

inductive PairingOp where
  | create (uuid : String)
  | markScanned (code newCsrf : String)
  | preCheckConfirm (code csrfHeader : String)
  | confirm (code clientName : String) (clientLabel : Option String) (vtoken csrfHeader : String)
  | claimConfirmedVtoken (code : String)
  | removeConfirmed (code : String)
deriving Repr, DecidableEq

/-- The code that a creation draws. -/
def PairingOp.drawn : PairingOp → Option String
  | .create uuid => some ("pair_" ++ uuid)
  | _ => none

/-- A call and the time of it. -/
structure PairingCall where
  now : Nat
  op : PairingOp
deriving Repr, DecidableEq

inductive PairingAnswer where
  | created (result : Except PairingError String)
  | scanned (found : Bool)
  | checked (result : Except PairingError Unit)
  | confirmed (result : Except PairingError Unit)
  | claimed (result : Option (PairingSession × Option String))
  | removed

def PairingRegistry.call (registry : PairingRegistry) (call : PairingCall) :
    PairingAnswer × PairingRegistry :=
  match call.op with
  | .create uuid =>
    let result := registry.create call.now uuid
    (.created result.1, result.2)
  | .markScanned code newCsrf =>
    let result := registry.markScanned call.now code newCsrf
    (.scanned result.1, result.2)
  | .preCheckConfirm code csrfHeader =>
    let result := registry.preCheckConfirm call.now code csrfHeader
    (.checked result.1, result.2)
  | .confirm code clientName clientLabel vtoken csrfHeader =>
    let result := registry.confirm call.now code clientName clientLabel vtoken csrfHeader
    (.confirmed result.1, result.2)
  | .claimConfirmedVtoken code =>
    let result := registry.claimConfirmedVtoken call.now code
    (.claimed result.1, result.2)
  | .removeConfirmed code => (.removed, registry.removeConfirmed code)

/-- A call with its answer. -/
abbrev PairingEntry : Type :=
  PairingCall × PairingAnswer

namespace PairingEntry

/-- The code that was created. -/
def created : PairingEntry → Option String
  | (_, .created (.ok code)) => some code
  | _ => none

/-- The code that was found by a scan. -/
def scanned : PairingEntry → Option String
  | (⟨_, .markScanned code _⟩, .scanned true) => some code
  | _ => none

/-- The code that was confirmed. -/
def confirmed : PairingEntry → Option String
  | (⟨_, .confirm code _ _ _ _⟩, .confirmed (.ok ())) => some code
  | _ => none

/-- The code that was claimed without a token in the answer. -/
def refused : PairingEntry → Option String
  | (⟨_, .claimConfirmedVtoken code⟩, .claimed none) => some code
  | (⟨_, .claimConfirmedVtoken code⟩, .claimed (some (_, none))) => some code
  | _ => none

variable {entry : PairingEntry} {code : String}

lemma of_refused (hrefused : entry.refused = some code) : entry.1.op = .claimConfirmedVtoken code
    := by
  revert hrefused
  fun_cases refused entry with
  | case1 | case2 =>
    intro hrefused
    cases hrefused
    rfl
  | case3 =>
    intro hrefused
    cases hrefused

lemma of_scanned (hscanned : entry.scanned = some code) :
    ∃ newCsrf, entry.1.op = .markScanned code newCsrf ∧ entry.2 = .scanned true := by
  revert hscanned
  fun_cases scanned entry with
  | case1 now own newCsrf =>
    intro hscanned
    cases hscanned
    exact ⟨newCsrf, rfl, rfl⟩
  | case2 =>
    intro hscanned
    cases hscanned

lemma of_confirmed (hconfirmed : entry.confirmed = some code) :
    ∃ clientName clientLabel vtoken csrfHeader, entry.1.op = .confirm code clientName clientLabel
      vtoken csrfHeader ∧ entry.2 = .confirmed (.ok ()) := by
  revert hconfirmed
  fun_cases confirmed entry with
  | case1 now own clientName clientLabel vtoken csrfHeader =>
    intro hconfirmed
    cases hconfirmed
    exact ⟨clientName, clientLabel, vtoken, csrfHeader, rfl, rfl⟩
  | case2 =>
    intro hconfirmed
    cases hconfirmed

end PairingEntry

open PairingEntry

/-- The registry with all calls so far. -/
def PairingRun : Type :=
  Recorded PairingRegistry PairingCall PairingAnswer

namespace PairingRun

def start : PairingRun :=
  History.start PairingRegistry.new

def step : PairingRun → PairingCall → PairingRun :=
  record PairingRegistry.call

/-- The clock does not go back, and the code that is drawn is a new one. -/
def Fair (run : PairingRun) (call : PairingCall) : Prop :=
  (∀ entry ∈ run.log, entry.1.now ≤ call.now) ∧ ∀ code ∈ call.op.drawn, ∀ entry ∈ run.log,
      PairingEntry.created entry ≠ some code
deriving Decidable

/-- The first scan of the code, which made the token. -/
def FirstScan (log : List PairingEntry) (code csrf : String) (scannedAt : Nat) : Prop :=
  First (fun entry : PairingEntry =>
      entry = (⟨scannedAt, .markScanned code csrf⟩, .scanned true))
    (fun entry => entry.scanned = some code) log

/-- The code was confirmed with the token, and no claim of it has been refused
since. -/
def Claimable (log : List PairingEntry) (code vtoken : String) (confirmedAt : Nat) : Prop :=
  Since (fun entry : PairingEntry => ∃ clientName clientLabel csrfHeader,
      entry = (⟨confirmedAt, .confirm code clientName clientLabel vtoken
        csrfHeader⟩, .confirmed (.ok ())))
    (fun entry => entry.refused ≠ some code) log

/-- A confirmation that succeeds is the first one of its code, has the token of
the first scan and comes in time. -/
def ConfirmedInTime (entry : PairingEntry) (earlier : List PairingEntry) : Prop :=
  ∀ now code clientName clientLabel vtoken csrfHeader,
    entry = (⟨now, .confirm code clientName clientLabel vtoken csrfHeader⟩, .confirmed (.ok ())) →
    (∀ other ∈ earlier, PairingEntry.confirmed other ≠ some code) ∧
      ∃ scannedAt, FirstScan earlier code csrfHeader scannedAt ∧
        scannedAt ≤ now ∧ now ≤ scannedAt + scannedTtl

/-- A token is handed out for a confirmed code, within the window, and not after
it was refused. -/
def ClaimedInTime (entry : PairingEntry) (earlier : List PairingEntry) : Prop :=
  ∀ now code session vtoken, entry = (⟨now, .claimConfirmedVtoken code⟩,
      .claimed (some (session, some vtoken))) →
    ∃ confirmedAt, Claimable earlier code vtoken confirmedAt ∧ now < confirmedAt + vtokenClaimWindow

end PairingRun

namespace PairingSession

variable {session : PairingSession} {now : Nat} {code newCsrf : String}

/-- A session that is waiting or scanned, with what the log says about it. -/
structure Live (session : PairingSession) (log : List PairingEntry)
    (code : String) : Prop where
  created : ∃ entry ∈ log, PairingEntry.created entry = some code
  unconfirmed : ∀ entry ∈ log, PairingEntry.confirmed entry ≠ some code
  vtoken : session.vtoken = none
  scan : session.status = .wait ∧ session.csrf = none ∧
      (∀ entry ∈ log, PairingEntry.scanned entry ≠ some code) ∨
    session.status = .scanned ∧ ∃ csrf scannedAt, session.csrf = some csrf ∧ session.scannedAt =
      some scannedAt ∧ PairingRun.FirstScan log code csrf scannedAt

/-- A confirmed session, with what the log says about it. -/
structure Done (session : PairingSession) (log : List PairingEntry)
    (code : String) (confirmedAt : Nat) : Prop where
  status : session.status = .confirmed
  confirmed : ∃ entry ∈ log, PairingEntry.confirmed entry = some code
  claimable : ∀ vtoken, session.vtoken = some vtoken →
    PairingRun.Claimable log code vtoken confirmedAt

variable {log : List PairingEntry} {entry : PairingEntry}

lemma Live.cons (hlive : session.Live log code) (hconfirmed : entry.confirmed ≠ some code)
    (hscanned : entry.scanned ≠ some code) : session.Live (entry :: log) code := by
  refine ⟨?_, ?_, hlive.vtoken, ?_⟩
  · obtain ⟨own, hown, hcreated⟩ := hlive.created
    exact ⟨own, List.mem_cons_of_mem _ hown, hcreated⟩
  · exact List.forall_mem_cons.mpr ⟨hconfirmed, hlive.unconfirmed⟩
  · rcases hlive.scan with
      ⟨hstatus, hcsrf, hnone⟩ | ⟨hstatus, csrf, scannedAt, hcsrf, hat, hfirst⟩
    · exact .inl ⟨hstatus, hcsrf, List.forall_mem_cons.mpr ⟨hscanned, hnone⟩⟩
    · exact .inr ⟨hstatus, csrf, scannedAt, hcsrf, hat, hfirst.cons entry⟩

lemma Live.scanned (hlive : session.Live log code) :
    (session.scanned now newCsrf).Live
      ((⟨now, .markScanned code newCsrf⟩, .scanned true) :: log) code := by
  refine ⟨?_, ?_, ?_, .inr ?_⟩
  · obtain ⟨own, hown, hcreated⟩ := hlive.created
    exact ⟨own, List.mem_cons_of_mem _ hown, hcreated⟩
  · exact List.forall_mem_cons.mpr ⟨by simp [PairingEntry.confirmed], hlive.unconfirmed⟩
  · rw [PairingSession.scanned]
    split
    · exact hlive.vtoken
    · exact hlive.vtoken
  · rcases hlive.scan with
      ⟨hstatus, hcsrf, hnone⟩ | ⟨hstatus, csrf, scannedAt, hcsrf, hat, hfirst⟩
    · -- The first scan makes the token.
      refine ⟨?_, newCsrf, now, ?_, ?_, first_cons_start rfl hnone⟩
      · simp [PairingSession.scanned, hstatus]
      · simp [PairingSession.scanned, hstatus, hcsrf]
      · simp [PairingSession.scanned, hstatus]
    · refine ⟨?_, csrf, scannedAt, ?_, ?_, hfirst.cons _⟩
      · simp [PairingSession.scanned, hstatus]
      · simp [PairingSession.scanned, hstatus, hcsrf]
      · simp [PairingSession.scanned, hstatus, hat]

lemma Done.cons {confirmedAt : Nat} (hdone : session.Done log code confirmedAt)
    (hrefused : session.vtoken.isSome = true → entry.refused ≠ some code) :
    session.Done (entry :: log) code confirmedAt := by
  refine ⟨hdone.status, ?_, ?_⟩
  · obtain ⟨own, hown, hconfirmed⟩ := hdone.confirmed
    exact ⟨own, List.mem_cons_of_mem _ hown, hconfirmed⟩
  · intro vtoken hvtoken
    exact (hdone.claimable vtoken hvtoken).cons (hrefused (Option.isSome_of_mem hvtoken))

end PairingSession

namespace PairingRegistry

variable {registry : PairingRegistry} {call : PairingCall} {code : String}

/-- What is in the first map after a call: a session that was there and that the
call did not scan or confirm, a new one, or one that was scanned. -/
lemma sessions_of_call {session : PairingSession}
    (hsession : (registry.call call).2.sessions.lookup code = some session) :
    (registry.sessions.lookup code = some session ∧
        confirmed (call, (registry.call call).1) ≠ some code ∧
        scanned (call, (registry.call call).1) ≠ some code) ∨
      (∃ uuid, call = ⟨call.now, .create uuid⟩ ∧ code = "pair_" ++ uuid ∧
        (registry.call call).1 = .created (.ok code) ∧
        session = { code := code, createdAt := call.now }) ∨
      ∃ newCsrf old, call = ⟨call.now, .markScanned code newCsrf⟩ ∧
        (registry.call call).1 = .scanned true ∧
        registry.sessions.lookup code = some old ∧
        session = old.scanned call.now newCsrf := by
  obtain ⟨now, op⟩ := call
  cases op with
  | create uuid =>
    rcases of_sessions_create hsession with hold | ⟨hcode, hanswer, hnew⟩
    · left
      refine ⟨hold, ?_, ?_⟩
      · simp [PairingEntry.confirmed]
      · simp [scanned]
    · right; left
      exact ⟨uuid, rfl, hcode, congrArg PairingAnswer.created hanswer, hnew⟩
  | markScanned own newCsrf =>
    rcases of_sessions_markScanned hsession with
      ⟨hold, hother⟩ | ⟨rfl, hanswer, old, hold, hscanned⟩
    · left
      refine ⟨hold, by simp [confirmed], ?_⟩
      intro hscanned
      obtain ⟨_, hop, hanswer⟩ := of_scanned hscanned
      obtain ⟨rfl, -⟩ := PairingOp.markScanned.inj hop
      exact hother (PairingAnswer.scanned.inj hanswer) rfl
    · right; right
      exact ⟨newCsrf, old, rfl, congrArg PairingAnswer.scanned hanswer, hold, hscanned⟩
  | preCheckConfirm own csrfHeader =>
    left
    simp only [call, preCheckConfirm_snd] at hsession
    refine ⟨(lookup_sessions_purgeExpired.mp hsession).1, ?_, ?_⟩
    · simp [confirmed]
    · simp [scanned]
  | confirm own clientName clientLabel vtoken csrfHeader =>
    left
    obtain ⟨hold, hother⟩ := of_sessions_confirm hsession
    refine ⟨hold, ?_, by simp [scanned]⟩
    intro hconfirmed
    obtain ⟨_, _, _, _, hop, hanswer⟩ := of_confirmed hconfirmed
    obtain ⟨rfl, -⟩ := PairingOp.confirm.inj hop
    exact hother (PairingAnswer.confirmed.inj hanswer) rfl
  | claimConfirmedVtoken own =>
    left
    simp only [call, sessions_claimConfirmedVtoken] at hsession
    refine ⟨(lookup_sessions_purgeExpired.mp hsession).1, ?_, ?_⟩
    · simp [confirmed]
    · simp [scanned]
  | removeConfirmed own =>
    left
    refine ⟨hsession, ?_, ?_⟩
    · simp [confirmed]
    · simp [scanned]

/-- What is in the second map after a call: a session that was there, whose token
the call did not refuse, one that was just confirmed, or one whose token was
cleared. -/
lemma confirmed_of_call {session : PairingSession} {confirmedAt : Nat}
    (hsession : (registry.call call).2.confirmedSessions.lookup code =
      some (session, confirmedAt)) :
    (registry.confirmedSessions.lookup code = some (session, confirmedAt) ∧
        (session.vtoken.isSome = true → refused (call, (registry.call call).1) ≠ some code)) ∨
      (∃ clientName clientLabel vtoken csrfHeader, ∃ old : PairingSession,
          call = ⟨confirmedAt, .confirm code clientName clientLabel vtoken csrfHeader⟩ ∧
          (registry.call call).1 = .confirmed (.ok ()) ∧
          session = old.confirmed clientName clientLabel vtoken) ∨
      ∃ old, registry.confirmedSessions.lookup code =
          some (old, confirmedAt) ∧ session = { old with vtoken := none } := by
  obtain ⟨now, op⟩ := call
  cases op with
  | create uuid =>
    left
    simp only [call, confirmedSessions_create] at hsession
    exact ⟨(lookup_confirmed_purgeExpired.mp hsession).1, by simp [refused]⟩
  | markScanned own newCsrf =>
    left
    simp only [call, confirmedSessions_markScanned] at hsession
    exact ⟨(lookup_confirmed_purgeExpired.mp hsession).1, by simp [refused]⟩
  | preCheckConfirm own csrfHeader =>
    left
    simp only [call, preCheckConfirm_snd] at hsession
    exact ⟨(lookup_confirmed_purgeExpired.mp hsession).1, by simp [refused]⟩
  | confirm own clientName clientLabel vtoken csrfHeader =>
    rcases of_confirmed_confirm hsession with
      hold | ⟨rfl, rfl, hanswer, old, hconfirmed⟩
    · exact .inl ⟨hold, by simp [refused]⟩
    · right; left
      exact ⟨clientName, clientLabel, vtoken, csrfHeader, old, rfl,
        congrArg PairingAnswer.confirmed hanswer, hconfirmed⟩
  | claimConfirmedVtoken own =>
    rcases of_confirmed_claim hsession with ⟨hold, hheld⟩ | hcleared
    · left
      refine ⟨hold, ?_⟩
      intro hvtoken hrefused
      cases of_refused hrefused
      obtain ⟨token, htoken⟩ := Option.isSome_iff_exists.mp hvtoken
      have hanswer := hheld rfl hvtoken
      rw [htoken] at hanswer
      simp only [call, hanswer] at hrefused
      cases hrefused
    · exact .inr (.inr hcleared)
  | removeConfirmed own =>
    left
    simp only [call, removeConfirmed, Query.lookup_erase] at hsession
    split at hsession
    · cases hsession
    · exact ⟨hsession, by simp [refused]⟩

lemma size_call (hsize : registry.size ≤ maxPairingSessions) :
    (registry.call call).2.size ≤ maxPairingSessions := by
  obtain ⟨now, op⟩ := call
  have hpurged : (registry.purgeExpired now).size ≤ maxPairingSessions :=
    size_purgeExpired_le.trans hsize
  cases op with
  | create uuid => exact size_create_le hpurged
  | markScanned own newCsrf => exact size_markScanned_le.trans hpurged
  | preCheckConfirm own csrfHeader =>
    simp only [call, preCheckConfirm_snd]
    exact hpurged
  | confirm own clientName clientLabel vtoken csrfHeader =>
    exact size_confirm_le.trans hpurged
  | claimConfirmedVtoken own =>
    exact size_claimConfirmedVtoken_le.trans hpurged
  | removeConfirmed own => exact size_removeConfirmed_le.trans hsize

/-- The maps are disjoint and bounded, the first has no confirmed session and no
token of a client, and a scanned session has its token and its time. -/
structure Consistent (registry : PairingRegistry) : Prop where
  disjoint : ∀ code, registry.sessions.lookup code = none ∨
    registry.confirmedSessions.lookup code = none
  live : ∀ code session, registry.sessions.lookup code = some session →
    session.status ≠ .confirmed ∧ session.vtoken = none
  scanned : ∀ code session,
    registry.sessions.lookup code = some session ∨
      (∃ confirmedAt, registry.confirmedSessions.lookup code = some (session, confirmedAt)) →
    session.status = .scanned →
    session.csrf.isSome = true ∧ session.scannedAt.isSome = true
  size : registry.size ≤ maxPairingSessions

end PairingRegistry

open PairingRegistry

namespace PairingRun

variable {run : PairingRun} {call : PairingCall} {code : String}

/-- The log tells of every session how it came to where it is. -/
structure Tracks (run : PairingRun) : Prop where
  live : ∀ code session, run.state.sessions.lookup code = some session → session.Live run.log code
  done : ∀ code session confirmedAt, run.state.confirmedSessions.lookup code = some
    (session, confirmedAt) → session.Done run.log code confirmedAt
  known : ∀ entry ∈ run.log, ∀ code, PairingEntry.scanned entry = some code ∨ PairingEntry.confirmed
    entry = some code → ∃ own ∈ run.log, PairingEntry.created own = some code
  size : run.state.size ≤ maxPairingSessions

lemma Tracks.consistent (htracks : run.Tracks) : run.state.Consistent where
  disjoint code := by
    cases hsession : run.state.sessions.lookup code with
    | none => exact Or.inl rfl
    | some session =>
      right
      cases hconfirmed : run.state.confirmedSessions.lookup code with
      | none => rfl
      | some confirmed =>
        obtain ⟨entry, hentry, hcode⟩ :=
          (htracks.done code confirmed.1 confirmed.2 hconfirmed).confirmed
        exact absurd hcode ((htracks.live code session hsession).unconfirmed entry hentry)
  live code session hsession := by
    have hlive := htracks.live code session hsession
    refine ⟨?_, hlive.vtoken⟩
    rcases hlive.scan with ⟨hstatus, -⟩ | ⟨hstatus, -⟩
    · simp [hstatus]
    · simp [hstatus]
  scanned code session hsession hscanned := by
    rcases hsession with hsession | ⟨confirmedAt, hsession⟩
    · rcases (htracks.live code session hsession).scan with
        ⟨hstatus, -⟩ | ⟨-, csrf, scannedAt, hcsrf, hat, -⟩
      · rw [hstatus] at hscanned
        cases hscanned
      · simp [hcsrf, hat]
    · have hstatus := (htracks.done code session confirmedAt hsession).status
      rw [hstatus] at hscanned
      cases hscanned
  size := htracks.size

lemma tracks_start : start.Tracks where
  live _ _ hsession := by cases hsession
  done _ _ _ hsession := by cases hsession
  known _ hentry := by cases hentry
  size := by decide

/-- A code that is new has no scan and no confirmation. -/
lemma Tracks.unknown (htracks : run.Tracks)
    (hfresh : ∀ entry ∈ run.log, created entry ≠ some code) :
    ∀ entry ∈ run.log, scanned entry ≠ some code ∧ confirmed entry ≠ some code := by
  intro entry hentry
  rw [← not_or]
  intro hknown
  obtain ⟨own, hown, hcreated⟩ := htracks.known entry hentry code hknown
  exact hfresh own hown hcreated

lemma Tracks.live_step (htracks : run.Tracks) (hfair : run.Fair call) {session : PairingSession}
    (hsession : (run.step call).state.sessions.lookup code = some session) :
    session.Live (run.step call).log code := by
  rcases sessions_of_call hsession with
    ⟨hold, hconfirmed, hscanned⟩ | ⟨uuid, hcall, hcode, hanswer, rfl⟩ |
      ⟨newCsrf, old, hcall, hanswer, hold, rfl⟩
  · exact (htracks.live code session hold).cons hconfirmed hscanned
  · -- A new session; nothing is known of its code.
    have hdrawn : code ∈ call.op.drawn := by
      rw [hcall, hcode]
      rfl
    have hunknown := htracks.unknown (hfair.2 code hdrawn)
    have hlog : (run.step call).log =
        (⟨call.now, .create uuid⟩, .created (.ok code)) :: run.log := by
      rw [← hcall, ← hanswer]
      rfl
    rw [hlog]
    refine ⟨⟨_, List.mem_cons_self, rfl⟩, ?_, rfl, .inl ⟨rfl, rfl, ?_⟩⟩
    · exact List.forall_mem_cons.mpr ⟨by simp [confirmed],
        fun entry hmem => (hunknown entry hmem).2⟩
    · exact List.forall_mem_cons.mpr ⟨by simp [scanned], fun entry hmem => (hunknown entry hmem).1⟩
  · have hlog : (run.step call).log =
        (⟨call.now, .markScanned code newCsrf⟩, .scanned true) :: run.log := by
      rw [← hcall, ← hanswer]
      rfl
    rw [hlog]
    exact (htracks.live code old hold).scanned

lemma Tracks.done_step (htracks : run.Tracks) {session : PairingSession} {confirmedAt : Nat}
    (hsession : (run.step call).state.confirmedSessions.lookup code = some (session, confirmedAt)) :
    session.Done (run.step call).log code confirmedAt := by
  rcases confirmed_of_call hsession with
    ⟨hold, hrefused⟩ | ⟨clientName, clientLabel, vtoken, csrfHeader, old, hcall, hanswer, rfl⟩ |
      ⟨old, hold, rfl⟩
  · exact (htracks.done code session confirmedAt hold).cons hrefused
  · have hlog : (run.step call).log =
        (⟨confirmedAt, .confirm code clientName clientLabel vtoken csrfHeader⟩,
          .confirmed (.ok ())) :: run.log := by
      rw [← hcall, ← hanswer]
      rfl
    rw [hlog]
    refine ⟨rfl, ⟨_, List.mem_cons_self, rfl⟩, ?_⟩
    intro own hown
    cases hown
    exact since_cons_start ⟨clientName, clientLabel, csrfHeader, rfl⟩
  · have hdone := htracks.done code old confirmedAt hold
    obtain ⟨entry, hentry, hconfirmed⟩ := hdone.confirmed
    refine ⟨hdone.status, ⟨entry, List.mem_cons_of_mem _ hentry, hconfirmed⟩, ?_⟩
    intro own hown
    cases hown

lemma found_of_call (hfound : scanned (call, (run.state.call call).1) = some code ∨
      confirmed (call, (run.state.call call).1) = some code) :
    ∃ session, run.state.sessions.lookup code = some session := by
  obtain ⟨now, op⟩ := call
  rcases hfound with hscanned | hconfirmed
  · obtain ⟨newCsrf, rfl, hanswer⟩ := of_scanned hscanned
    simp only [PairingRegistry.call, markScanned] at hanswer
    cases hsession : (run.state.purgeExpired now).sessions.lookup code with
    | none => simp [hsession] at hanswer
    | some session =>
      exact ⟨session, (lookup_sessions_purgeExpired.mp hsession).1⟩
  · obtain ⟨clientName, clientLabel, vtoken, csrfHeader, rfl, hanswer⟩ :=
      of_confirmed hconfirmed
    have hok : (run.state.confirm now code clientName clientLabel vtoken
        csrfHeader).1 = .ok () := by
      simpa [call] using hanswer
    obtain ⟨session, hsession, -⟩ := of_confirm_ok hok
    exact ⟨session, hsession⟩

lemma Tracks.known_step (htracks : run.Tracks) :
    ∀ entry ∈ (run.step call).log, ∀ code, scanned entry = some code ∨ confirmed entry = some code →
      ∃ own ∈ (run.step call).log, created own = some code := by
  intro entry hentry code hknown
  have hcreated : ∃ own ∈ run.log, created own = some code := by
    rcases List.mem_cons.mp hentry with rfl | hentry
    · obtain ⟨session, hsession⟩ := found_of_call hknown
      exact (htracks.live code session hsession).created
    · exact htracks.known entry hentry code hknown
  obtain ⟨own, hown, hcreated⟩ := hcreated
  exact ⟨own, List.mem_cons_of_mem _ hown, hcreated⟩

lemma Tracks.step (htracks : run.Tracks) (hfair : run.Fair call) : (run.step call).Tracks where
  live _ _ hsession := htracks.live_step hfair hsession
  done _ _ _ hsession := htracks.done_step hsession
  known := htracks.known_step
  size := size_call htracks.size

lemma Tracks.confirmedInTime (htracks : run.Tracks) (hfair : run.Fair call) :
    ConfirmedInTime (call, (run.state.call call).1) run.log := by
  intro now code clientName clientLabel vtoken csrfHeader hentry
  obtain ⟨rfl, hanswer⟩ := Prod.mk.inj hentry
  have hok : (run.state.confirm now code clientName clientLabel vtoken csrfHeader).1 = .ok () := by
    simpa [call] using hanswer
  obtain ⟨session, hsession, hexpired, hstatus, hcsrf, -⟩ :=
    of_confirm_ok hok
  have hlive := htracks.live code session hsession
  refine ⟨hlive.unconfirmed, ?_⟩
  rcases hlive.scan with
    ⟨hwait, -⟩ | ⟨-, csrf, scannedAt, hown, hat, hfirst⟩
  · simp [hwait] at hstatus
  · rw [hown] at hcsrf
    cases hcsrf
    refine ⟨scannedAt, hfirst, ?_, ?_⟩
    · obtain ⟨entry, hmem, rfl⟩ := hfirst.mem
      exact hfair.1 _ hmem
    · simp only [PairingSession.isExpired, hstatus, hat, decide_eq_false_iff_not] at hexpired
      omega

lemma Tracks.claimedInTime (htracks : run.Tracks) :
    ClaimedInTime (call, (run.state.call call).1) run.log := by
  intro now code session vtoken hentry
  obtain ⟨rfl, hanswer⟩ := Prod.mk.inj hentry
  simp only [call, PairingAnswer.claimed.injEq] at hanswer
  obtain ⟨confirmedAt, hlookup, hvtoken, hwindow⟩ :=
    of_claimConfirmedVtoken hanswer
  have hdone := htracks.done code session confirmedAt hlookup
  refine ⟨confirmedAt, hdone.claimable vtoken hvtoken, ?_⟩
  omega

/-- What holds of the pairing sessions in every sequence of calls at times that do
not go back and with codes that are drawn once. -/
theorem run_consistent {calls : List PairingCall}
    (hfair : Transition.EveryStep step Fair start calls) :
    (Transition.run step start calls).state.Consistent ∧
      Each ConfirmedInTime (Transition.run step start calls).log ∧
      Each ClaimedInTime (Transition.run step start calls).log := by
  obtain ⟨htracks, heach⟩ := each_of_everyStep (J := fun entry earlier =>
      ConfirmedInTime entry earlier ∧ ClaimedInTime entry earlier)
    (fun recorded call htracks hcond =>
      ⟨htracks.step hcond, htracks.confirmedInTime hcond, htracks.claimedInTime⟩)
    tracks_start hfair
  exact ⟨htracks.consistent, heach.imp fun _ _ hboth => hboth.1, heach.imp fun _ _ hboth => hboth.2⟩

end PairingRun

/-- A code is created, scanned, confirmed and claimed, and then another one is
created. -/
def Sample.pairingCalls : List PairingCall :=
  [⟨0, .create "1"⟩, ⟨5, .markScanned "pair_1" "c"⟩, ⟨9, .confirm "pair_1" "bot" none "vhub_1" "c"⟩,
    ⟨9, .claimConfirmedVtoken "pair_1"⟩, ⟨12, .create "2"⟩]

theorem PairingRun.run_consistent_sample : (Transition.run step start Sample.pairingCalls).log.map
        PairingEntry.confirmed = [none, none, some "pair_1", none, none] ∧
      (Transition.run step start Sample.pairingCalls).state.Consistent ∧
      Each ConfirmedInTime (Transition.run step start Sample.pairingCalls).log ∧
      Each ClaimedInTime (Transition.run step start Sample.pairingCalls).log :=
  ⟨by decide +kernel, run_consistent (by decide +kernel)⟩

end IlinkHub
