/-
`pair_confirm` and `get_qrcode_status` (`server/pairing.rs`) beside all other
handlers of the Hub: a confirmation takes the pairing lock and the registry lock
one after the other, and a client that polls may come in between.
-/
import IlinkHub.HubRuns
import IlinkHub.PairingRuns

namespace IlinkHub

open Sample Function PairingRegistry Transition

inductive OriginCheckError where
  | missing
  | notAllowed
deriving Repr, DecidableEq

/-- A `pair_confirm` with what it finds in the request.  `originCheck` is the
verdict about its headers, and `vtokenPlain` the token that is drawn for it. -/
structure PairConfirm where
  code : String
  reqName : String
  reqLabel : Option String := none
  originCheck : Except OriginCheckError Unit := .ok ()
  csrfHeader : Option String
  vtokenPlain : String

/-- The status and the body: the text of an error, or the name and the token. -/
structure PairConfirmResponse where
  status : Nat
  body : Except String (String × String)

def pairNameLen : Nat :=
  64

namespace PairConfirm

variable (request : PairConfirm)

def name : String :=
  Text.trim request.reqName

def label : Option String :=
  (request.reqLabel.map Text.trim).filter (· ≠ "")

/-- The checks before the pairing session is looked at; the result is the token
against forgery.  `allowed` is the verdict of the limiter. -/
def admission (allowed : Bool) : Except PairConfirmResponse String :=
  if request.name = "" then .error ⟨400, .error "name is required"⟩
  else if pairNameLen < request.name.utf8ByteSize then
    .error ⟨400, .error "name must be at most 64 characters"⟩
  else if request.label.any fun label => pairNameLen < label.utf8ByteSize then
    .error ⟨400, .error "label must be at most 64 characters"⟩
  else if allowed = false then
    .error ⟨429, .error "too many confirm attempts for this pairing code"⟩
  else
    match request.originCheck with
    | .error .missing => .error ⟨403, .error "origin header required"⟩
    | .error .notAllowed => .error ⟨403, .error "origin not allowed"⟩
    | .ok () =>
      match request.csrfHeader with
      | some csrf =>
        if csrf = "" then
          .error ⟨403, .error "missing or invalid CSRF token"⟩
        else .ok csrf
      | none => .error ⟨403, .error "missing or invalid CSRF token"⟩

end PairConfirm

def PairingError.response : PairingError → PairConfirmResponse
  | .notFound => ⟨404, .error "pairing session not found"⟩
  | .expired => ⟨410, .error "pairing session expired"⟩
  | .alreadyConfirmed => ⟨409, .error "pairing already confirmed"⟩
  | .notScanned => ⟨412, .error "pairing code not yet scanned"⟩
  | .csrfMismatch => ⟨403, .error "csrf token mismatch"⟩
  | .tooManySessions => ⟨503, .error "too many active pairing sessions"⟩
  | .nameCollision => ⟨409, .error "client name already registered"⟩

/-- The await points of `pair_confirm`.  The registration is that of a confirmed
client, with its own await points.  `dropped` tells whether the confirmation was
left without a registration. -/
inductive PairPhase where
  | enter
  | preCheck (csrf : String)
  | confirm (csrf : String)
  | register (phase : AdminPhase)
  | rollback
  | finished (response : PairConfirmResponse)
  | dropped (unregistered : Bool)

/-- The code is confirmed, and the token of it is not registered. -/
def PairPhase.unregistered : PairPhase → Bool
  | .register .start | .rollback => true
  | .dropped unregistered => unregistered
  | _ => false

namespace PairConfirm

variable (hash : String → String) (request : PairConfirm)

/-- The registration inside of a `pair_confirm`. -/
def registration : AdminOp :=
  .registerConfirmed request.name request.label none

/-- What the registration finds: the token is not drawn there. -/
def registrationEnv (env : HubEnv) : HubEnv :=
  { env with drawn := hash request.vtokenPlain }

/-- The first step of the registration ends it if the name is taken. -/
def afterRegistration (before : AdminPhase) : AdminPhase → PairPhase
  | .finished =>
    if before = .start then .rollback
    else .finished ⟨200, .ok (request.name, request.vtokenPlain)⟩
  | phase => .register phase

def step (pairing : PairingRegistry) (data : HubData) (now : Nat)
    (env : HubEnv) : PairPhase → PairPhase × PairingRegistry × HubData
  | .enter =>
    match request.admission env.admitted with
    | .error response => (.finished response, pairing, data)
    | .ok csrf => (.preCheck csrf, pairing, data)
  | .preCheck csrf =>
    match pairing.preCheckConfirm now request.code csrf with
    | (.error error, purged) => (.finished error.response, purged, data)
    | (.ok (), purged) => (.confirm csrf, purged, data)
  | .confirm csrf =>
    match pairing.confirm now request.code request.name request.label request.vtokenPlain csrf with
    | (.error error, after) => (.finished error.response, after, data)
    | (.ok (), after) => (.register .start, after, data)
  | .register phase =>
    let result := request.registration.step data (request.registrationEnv hash env) phase
    (request.afterRegistration phase result.2, pairing, result.1)
  | .rollback =>
    (.finished PairingError.nameCollision.response, pairing.removeConfirmed request.code, data)
  | .finished response => (.finished response, pairing, data)
  | .dropped unregistered => (.dropped unregistered, pairing, data)

end PairConfirm

structure QrcodeStatusResponse where
  ret : Int
  status : Option String
  botToken : Option String := none
  baseurl : Option String := none
  ilinkBotId : Option String := none
  ilinkUserId : Option String := none
  errmsg : Option String := none
deriving Repr, DecidableEq

/-- One look at the session of a code. -/
def qrcodeStatusJson (clientBase : String) (pairing : PairingRegistry)
    (now : Nat) (qrcode : String) : QrcodeStatusResponse × PairingRegistry :=
  match pairing.claimConfirmedVtoken now qrcode with
  | (none, after) =>
    ({ ret := -1, status := some "expired",
        errmsg := some "pairing session not found" }, after)
  | (some (session, botToken), after) =>
    let status := session.statusStr now
    ({ ret := 0, status := some status, botToken := botToken,
        baseurl := if status = "confirmed" then some clientBase else none,
        ilinkBotId := some "ilink-hub@hub.local",
        ilinkUserId := some "hub-client" }, after)

/-- The poll is answered unless the session still waits. -/
def QrcodeStatusResponse.isTerminal (response : QrcodeStatusResponse) : Bool :=
  response.status ≠ some "wait"

universe u v

/-- The Hub with the pairing sessions and the confirmations that run.  The answers
to the polls are history that no code reads, each with the registry at its
time. -/
structure PairHub (τ : Type u) (σ : Type v) where
  hub : HubState τ
  pairing : PairingRegistry
  pairs : σ → PairPhase
  answers : List (QrcodeStatusResponse × Moment)

/-- Another handler makes a step, a code is created or scanned, a confirmation
runs to its next await point or is dropped there, or a poll looks at a code;
`late` is a poll at its deadline. -/
inductive PairEvent (τ : Type u) (σ : Type v) where
  | hub (event : HubEvent τ)
  | create (now : Nat) (uuid : String)
  | scan (now : Nat) (code newCsrf : String)
  | pair (t : σ) (now : Nat) (env : HubEnv)
  | dropPair (t : σ)
  | poll (now : Nat) (code : String) (late : Bool)

/-- The code that a poll looks at. -/
def PairEvent.polled {τ : Type u} {σ : Type v} : PairEvent τ σ → Option String
  | .poll _ code _ => some code
  | _ => none

/-- The token stands with the confirmed session of the code. -/
def PairingRegistry.Holds (pairing : PairingRegistry) (code vtoken : String) : Prop :=
  ∃ session confirmedAt, pairing.confirmedSessions.lookup code =
    some (session, confirmedAt) ∧ session.vtoken = some vtoken

variable {pairing : PairingRegistry}

/-- Only a confirmation adds a token. -/
lemma PairingRegistry.holds_of_call {call : PairingCall} {code vtoken : String}
    (hholds : (pairing.call call).2.Holds code vtoken) :
    pairing.Holds code vtoken ∨ ∃ clientName clientLabel csrfHeader, call.op = .confirm code
        clientName clientLabel vtoken csrfHeader ∧ (pairing.call call).1 = .confirmed (.ok ()) := by
  obtain ⟨session, confirmedAt, hlookup, hvtoken⟩ := hholds
  rcases confirmed_of_call hlookup with
    ⟨hold, -⟩ | ⟨clientName, clientLabel, own, csrfHeader, old, hcall, hanswer, rfl⟩ |
      ⟨old, hold, rfl⟩
  · exact .inl ⟨session, confirmedAt, hold, hvtoken⟩
  · right
    cases hvtoken
    exact ⟨clientName, clientLabel, csrfHeader, by rw [hcall], hanswer⟩
  · cases hvtoken

namespace PairConfirm

variable {hash : String → String} {request : PairConfirm} {pairing : PairingRegistry}
  {data : HubData} {now : Nat} {env : HubEnv} {phase : PairPhase}

lemma pairing_preCheck (csrf : String) :
    (request.step hash pairing data now env (.preCheck csrf)).2.1 =
      (pairing.call ⟨now, .preCheckConfirm request.code csrf⟩).2 := by
  simp only [step, PairingRegistry.call]
  split
  · next heq => rw [heq]
  · next heq => rw [heq]

lemma pairing_confirm (csrf : String) :
    (request.step hash pairing data now env (.confirm csrf)).2.1 =
      (pairing.call ⟨now, .confirm request.code request.name request.label
        request.vtokenPlain csrf⟩).2 := by
  simp only [step, PairingRegistry.call]
  split
  · next heq => rw [heq]
  · next heq => rw [heq]

/-- A step keeps the tokens of the codes up to its own, which the confirmation
adds and the rollback removes. -/
lemma holds_of_step {code vtoken : String}
    (hholds : (request.step hash pairing data now env phase).2.1.Holds code vtoken) :
    (pairing.Holds code vtoken ∧ (phase = .rollback → code ≠ request.code)) ∨
      code = request.code ∧ vtoken = request.vtokenPlain ∧
        (request.step hash pairing data now env phase).1 = .register .start := by
  cases phase with
  | enter =>
    left
    simp only [step] at hholds
    split at hholds
    · exact ⟨hholds, fun hphase => by cases hphase⟩
    · exact ⟨hholds, fun hphase => by cases hphase⟩
  | preCheck csrf =>
    left
    rw [pairing_preCheck] at hholds
    rcases holds_of_call hholds with hold | ⟨_, _, _, hop, -⟩
    · exact ⟨hold, fun hphase => by cases hphase⟩
    · cases hop
  | confirm csrf =>
    rw [pairing_confirm] at hholds
    rcases holds_of_call hholds with
      hold | ⟨_, _, _, hop, hanswer⟩
    · exact .inl ⟨hold, fun hphase => by cases hphase⟩
    · right
      cases hop
      refine ⟨rfl, rfl, ?_⟩
      simp only [PairingRegistry.call] at hanswer
      simp only [step]
      split
      · next heq =>
        simp [heq] at hanswer
      · rfl
  | register phase => exact .inl ⟨hholds, fun hphase => by cases hphase⟩
  | rollback =>
    left
    obtain ⟨session, confirmedAt, hlookup, hvtoken⟩ := hholds
    simp only [step, removeConfirmed, Query.lookup_erase] at hlookup
    split at hlookup
    · cases hlookup
    · next hother =>
      exact ⟨⟨session, confirmedAt, hlookup, hvtoken⟩, fun _ => hother⟩
  | finished response => exact .inl ⟨hholds, fun hphase => by cases hphase⟩
  | dropped unregistered => exact .inl ⟨hholds, fun hphase => by cases hphase⟩

/-- The registration ends the time without one, and so does the rollback. -/
lemma unregistered_step (hphase : phase.unregistered = true) :
    phase = .rollback ∨ (request.step hash pairing data now env phase).1.unregistered = true ∨
      (request.step hash pairing data now env
        phase).2.2.registry.Registered (hash request.vtokenPlain) := by
  cases phase with
  | register phase =>
    right
    cases phase with
    | start =>
      simp only [step, AdminOp.step, registration, AdminOp.begin]
      split
      · split
        · next registry hnext =>
          right
          exact (KeyedRegistry.registered_registerConfirmed hnext).mpr (.inl rfl)
        · exact .inl rfl
      · exact .inl rfl
    | _ => cases hphase
  | rollback => exact .inl rfl
  | dropped unregistered => exact .inr (.inl hphase)
  | _ => cases hphase

end PairConfirm

/-- A token is answered if it stands with the code. -/
lemma holds_of_botToken {clientBase : String} {now : Nat} {qrcode token : String}
    (htoken : (qrcodeStatusJson clientBase pairing now qrcode).1.botToken =
      some token) : pairing.Holds qrcode token := by
  unfold qrcodeStatusJson at htoken
  rcases hclaim : pairing.claimConfirmedVtoken now qrcode with
    ⟨_ | ⟨session, botToken⟩, after⟩
  · simp [hclaim] at htoken
  · rw [hclaim] at htoken
    cases htoken
    obtain ⟨confirmedAt, hlookup, hvtoken, -⟩ :=
      of_claimConfirmedVtoken (congrArg Prod.fst hclaim)
    exact ⟨session, confirmedAt, hlookup, hvtoken⟩

lemma pairing_qrcodeStatusJson (clientBase : String)
    (pairing : PairingRegistry) (now : Nat) (qrcode : String) :
    (qrcodeStatusJson clientBase pairing now qrcode).2 =
      (pairing.call ⟨now, .claimConfirmedVtoken qrcode⟩).2 := by
  unfold qrcodeStatusJson
  split
  · next heq => exact (congrArg Prod.snd heq).symm
  · next heq => exact (congrArg Prod.snd heq).symm

instance (moment : Moment) (vtoken : String) :
    Decidable (moment.Known vtoken) :=
  inferInstanceAs (Decidable (_ ∨ _))

/-- The data after a step that is not one of the handlers of the Hub. -/
def HubState.withData {τ : Type u} (hub : HubState τ) (data : HubData) : HubState τ :=
  { hub with
    data := data
    removed := hub.removed ++ hub.data.registry.lost data.registry }

lemma HubState.known_withData {τ : Type u} {hub : HubState τ} {vtoken : String} (data : HubData)
    (hknown : hub.moment.Known vtoken) : (hub.withData data).moment.Known vtoken := by
  rcases hknown with hregistered | hremoved
  · by_cases hafter : data.registry.Registered vtoken
    · exact .inl hafter
    · exact .inr (List.mem_append_right _ (KeyedRegistry.mem_lost_iff.mpr ⟨hregistered, hafter⟩))
  · exact .inr (List.mem_append_left _ hremoved)

namespace PairHub

variable {τ : Type u} {σ : Type v}

def start (hub : HubState τ) : PairHub τ σ where
  hub := hub
  pairing := .new
  pairs := fun _ => .enter
  answers := []

/-- The confirmation of the code has come to its registration, or was rolled back,
when a poll looks at the code. -/
def Settled (requests : σ → PairConfirm) (state : PairHub τ σ) (event : PairEvent τ σ) : Prop :=
  ∀ code ∈ event.polled, ∀ t, (requests t).code = code → (state.pairs t).unregistered = false

instance [Fintype σ] (requests : σ → PairConfirm) (state : PairHub τ σ)
    (event : PairEvent τ σ) : Decidable (Settled requests state event) :=
  inferInstanceAs (Decidable (∀ code ∈ event.polled, _))

/-- The token of an answer was in the registry by then. -/
def Issued (hash : String → String) (answer : QrcodeStatusResponse × Moment) : Prop :=
  ∀ token ∈ answer.1.botToken, answer.2.Known (hash token)
deriving Decidable

/-- A token that can be claimed is known, or its confirmation is unfinished. -/
structure Backed (hash : String → String) (requests : σ → PairConfirm)
    (state : PairHub τ σ) : Prop where
  sessions : ∀ code vtoken, state.pairing.Holds code vtoken → state.hub.moment.Known (hash vtoken) ∨
      ∃ t, (requests t).code = code ∧ (requests t).vtokenPlain = vtoken ∧
        (state.pairs t).unregistered = true
  answers : ∀ answer ∈ state.answers, Issued hash answer

variable {hash : String → String} {requests : σ → PairConfirm} {state : PairHub τ σ}

/-- The invariant over a step after which every claimable token was so before. -/
lemma Backed.frame (hbacked : Backed hash requests state) {after : PairHub τ σ}
    (hholds : ∀ code vtoken, after.pairing.Holds code vtoken → state.pairing.Holds code vtoken)
    (hknown : ∀ vtoken, state.hub.moment.Known vtoken → after.hub.moment.Known vtoken)
    (hpairs : ∀ t, (state.pairs t).unregistered = true → (after.pairs t).unregistered = true)
    (hanswers : ∀ answer ∈ after.answers, Issued hash answer) : Backed hash requests after where
  sessions code vtoken hafter := by
    rcases hbacked.sessions code vtoken (hholds code vtoken hafter) with
      hold | ⟨t, hcode, hplain, hunregistered⟩
    · exact Or.inl (hknown _ hold)
    · exact Or.inr ⟨t, hcode, hplain, hpairs t hunregistered⟩
  answers := hanswers

variable [DecidableEq τ] [DecidableEq σ] (config : HubConfig)
  (hash : String → String) (clientBase : String) (requests : σ → PairConfirm)

def step (state : PairHub τ σ) : PairEvent τ σ → PairHub τ σ
  | .hub event => { state with hub := state.hub.step config event }
  | .create now uuid =>
    { state with pairing := (state.pairing.create now uuid).2 }
  | .scan now code newCsrf =>
    if (state.pairing.get code).isSome then
      { state with pairing := (state.pairing.markScanned now code newCsrf).2 }
    else state
  | .pair t now env =>
    let result := (requests t).step hash state.pairing state.hub.data now env (state.pairs t)
    { state with
      hub := state.hub.withData result.2.2
      pairing := result.2.1
      pairs := update state.pairs t result.1 }
  | .dropPair t =>
    { state with
      pairs := update state.pairs t (.dropped (state.pairs t).unregistered) }
  | .poll now code late =>
    let result := qrcodeStatusJson clientBase state.pairing now code
    { state with
      pairing := result.2
      answers :=
        if result.1.isTerminal ∨ late = true then
          (result.1, state.hub.moment) :: state.answers
        else state.answers }

variable {config hash clientBase requests}

lemma Backed.pair (hbacked : Backed hash requests state) (t : σ) (now : Nat) (env : HubEnv) :
    Backed hash requests (state.step config hash clientBase requests (.pair t now env)) where
  sessions code vtoken hholds := by
    rcases PairConfirm.holds_of_step hholds with
      ⟨hold, hrollback⟩ | ⟨hcode, hplain, hnext⟩
    · rcases hbacked.sessions code vtoken hold with
        hknown | ⟨s, hcode, hplain, hunregistered⟩
      · exact Or.inl (HubState.known_withData _ hknown)
      · by_cases hst : s = t
        · subst hst
          rcases PairConfirm.unregistered_step hunregistered with
            hphase | hkept | hregistered
          · exact absurd hcode.symm (hrollback hphase)
          · right
            refine ⟨s, hcode, hplain, ?_⟩
            simp only [PairHub.step, update_self]
            exact hkept
          · left
            rw [hplain] at hregistered
            exact Or.inl hregistered
        · right
          refine ⟨s, hcode, hplain, ?_⟩
          simp only [PairHub.step, update_of_ne hst]
          exact hunregistered
    · right
      refine ⟨t, hcode.symm, hplain.symm, ?_⟩
      simp only [PairHub.step, update_self, hnext]
      rfl
  answers := hbacked.answers

lemma Backed.poll (hbacked : Backed hash requests state) {now : Nat} {code : String} {late : Bool}
    (hsettled : Settled requests state (.poll now code late)) :
    Backed hash requests (state.step config hash clientBase requests (.poll now code late)) := by
  have hholds : ∀ own vtoken,
      (qrcodeStatusJson clientBase state.pairing now code).2.Holds own vtoken →
      state.pairing.Holds own vtoken := by
    intro own vtoken hafter
    rw [pairing_qrcodeStatusJson] at hafter
    rcases holds_of_call hafter with hold | ⟨_, _, _, hop, -⟩
    · exact hold
    · cases hop
  refine hbacked.frame hholds (fun _ hknown => hknown) (fun _ hold => hold) ?_
  intro answer hanswer
  simp only [step] at hanswer
  split at hanswer
  · rcases List.mem_cons.mp hanswer with rfl | hold
    · intro token htoken
      rcases hbacked.sessions code token (holds_of_botToken htoken) with
        hknown | ⟨t, hcode, -, hunregistered⟩
      · exact hknown
      · simp [hsettled code rfl t hcode] at hunregistered
    · exact hbacked.answers answer hold
  · exact hbacked.answers answer hanswer

lemma Backed.step (hbacked : Backed hash requests state)
    {event : PairEvent τ σ} (hsettled : Settled requests state event) :
    Backed hash requests (state.step config hash clientBase requests event) := by
  cases event with
  | hub event =>
    exact hbacked.frame (fun _ _ hold => hold) (fun _ hold => HubState.known_step event hold)
      (fun _ hold => hold) hbacked.answers
  | create now uuid =>
    refine hbacked.frame ?_ (fun _ hknown => hknown) (fun _ hold => hold) hbacked.answers
    intro code vtoken hafter
    have hcall : (state.pairing.call ⟨now, .create uuid⟩).2.Holds code
      vtoken := hafter
    rcases holds_of_call hcall with hold | ⟨_, _, _, hop, -⟩
    · exact hold
    · cases hop
  | scan now code newCsrf =>
    simp only [PairHub.step]
    split
    · refine hbacked.frame ?_ (fun _ hknown => hknown) (fun _ hold => hold) hbacked.answers
      intro own vtoken hafter
      have hcall : (state.pairing.call ⟨now, .markScanned code
        newCsrf⟩).2.Holds own vtoken := hafter
      rcases holds_of_call hcall with hold | ⟨_, _, _, hop, -⟩
      · exact hold
      · cases hop
    · exact hbacked
  | pair t now env => exact hbacked.pair t now env
  | dropPair t =>
    refine hbacked.frame (fun _ _ hold => hold) (fun _ hknown => hknown) ?_ hbacked.answers
    intro s hunregistered
    by_cases hst : s = t
    · subst hst
      simp only [PairHub.step, update_self]
      exact hunregistered
    · simp only [PairHub.step, update_of_ne hst]
      exact hunregistered
  | poll now code late => exact hbacked.poll hsettled

/-- A token that a poll hands out should be one that was registered by then.  That
is so in every run in which no poll looks at a code between its confirmation and
the registration of the token, nor after a confirmation that was dropped
there. -/
theorem issued_of_settled {hub : HubState τ} {events : List (PairEvent τ σ)} (hsettled : EveryStep
      (step config hash clientBase requests) (Settled requests) (start hub) events) :
    ∀ answer ∈ (run (step config hash clientBase requests) (start hub)
      events).answers, Issued hash answer := by
  have hstart : Backed hash requests (start hub) := by
    refine ⟨?_, nofun⟩
    rintro code vtoken ⟨session, confirmedAt, hlookup, -⟩
    cases hlookup
  exact (run_invariant_of_everyStep
    (fun _ _ hbacked hcond => hbacked.step hcond) hstart hsettled).answers

end PairHub

namespace Sample

/-- The client `bot` is registered. -/
def pairTasks : Fin 1 → Task
  | 0 => .admin (.register "bot" none none)

/-- Someone confirms the code `pair_1` for a client of this name. -/
def confirmAs (name : String) : Fin 1 → PairConfirm
  | 0 => { code := "pair_1", reqName := name, csrfHeader := some "c",
           vtokenPlain := "vhub_1" }

def sampleHash (vtoken : String) : String :=
  "h:" ++ vtoken

def scannedCode : List (PairEvent (Fin 1) (Fin 1)) :=
  List.replicate 4 (.hub (.run 0 { drawn := "h:vhub_0" })) ++ [.create 0 "1", .scan 0 "pair_1" "c"]

/-- The client polls after the confirmation, before the registration. -/
def polledEarly : List (PairEvent (Fin 1) (Fin 1)) :=
  scannedCode ++ List.replicate 3 (.pair 0 1 {}) ++
    [.poll 2 "pair_1" false] ++ List.replicate 2 (.pair 0 3 {})

/-- The client polls after the registration. -/
def polledLate : List (PairEvent (Fin 1) (Fin 1)) :=
  scannedCode ++ List.replicate 5 (.pair 0 1 {}) ++ [.poll 2 "pair_1" false]

def pairStep (name : String) :
    PairHub (Fin 1) (Fin 1) → PairEvent (Fin 1) (Fin 1) → PairHub (Fin 1) (Fin 1) :=
  PairHub.step noAcl sampleHash "http://127.0.0.1:8765" (confirmAs name)

def pairStart : PairHub (Fin 1) (Fin 1) :=
  PairHub.start (HubState.start pairTasks freshHub [])

end Sample

theorem PairHub.issued_of_settled_sample :
    ((run (pairStep "other") pairStart polledLate).answers.map fun answer => answer.1.botToken) =
        [some "vhub_1"] ∧
      ∀ answer ∈ (run (pairStep "other") pairStart polledLate).answers, Issued sampleHash answer :=
  ⟨by decide +kernel, issued_of_settled (by decide +kernel)⟩

/-- The name is taken, so the confirmation is rolled back, but the client has
polled in between: it gets a token that is never registered. -/
theorem PairHub.polled_before_registration :
    ((run (pairStep "bot") pairStart polledEarly).answers.map fun answer => answer.1.botToken) =
        [some "vhub_1"] ∧
      (¬ ∀ answer ∈ (run (pairStep "bot") pairStart
        polledEarly).answers, Issued sampleHash answer) ∧
      ¬ (run (pairStep "bot") pairStart polledEarly).hub.moment.Known (sampleHash "vhub_1") := by
  refine ⟨by decide +kernel, by decide +kernel, by decide +kernel⟩

end IlinkHub
