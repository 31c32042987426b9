/-
The polling loop of the upstream connection (`run_polling_loop` of
`ilink/upstream.rs`): the startup probe, the iterations with their branches for
success, an expired session and other errors, and the cursor that goes along.
The outcome of a renewal and what the shutdown signal does are inputs of a step.
-/
import IlinkHub.Delivery

namespace IlinkHub

open Transition GetUpdatesResponse

/-- How the loop takes a response. -/
inductive Verdict where
  | success
  | expired
  | failed
deriving Repr, DecidableEq

/-- The code of an expired session. -/
def sessionExpired : Int :=
  -14

namespace GetUpdatesResponse

variable (resp : GetUpdatesResponse)

/-- The startup probe knows only the expired session; any other code counts as
connected. -/
def probeVerdict : Verdict :=
  if (resp.errcode.or resp.ret).getD 0 = sessionExpired then .expired
  else .success

/-- The guards of the loop itself. -/
def pollVerdict : Verdict :=
  if resp.ret = some 0 ∨ resp.errcode = none then .success
  else if (resp.errcode.or resp.ret).getD (-1) = sessionExpired then .expired
  else .failed

/-- The cursor, if there is one. -/
def newBuf : Option String :=
  resp.getUpdatesBuf.filter fun buf => buf ≠ ""

/-- Neither of the codes is a non-zero value. -/
def NoError : Prop :=
  (resp.ret = none ∨ resp.ret = some 0) ∧ (resp.errcode = none ∨ resp.errcode = some 0)
deriving Decidable

/-- The verdict agrees with the codes: success means no error, and an expired
session is taken as one. -/
def Consistent (verdict : Verdict) : Prop :=
  (verdict = .success → resp.NoError) ∧
    (resp.ret = some sessionExpired ∨ resp.errcode = some sessionExpired → verdict = .expired)
deriving Decidable

variable {resp}

lemma newBuf_ne_empty {buf : String} (hbuf : resp.newBuf = some buf) : buf ≠ "" :=
  of_decide_eq_true (Option.filter_eq_some_iff.mp hbuf).2

lemma consistent_probeVerdict_iff :
    resp.Consistent resp.probeVerdict ↔ resp.NoError ∨ resp.errcode = some sessionExpired ∨
        resp.errcode = none ∧ resp.ret = some sessionExpired := by
  obtain ⟨ret, errcode, errmsg, msgs, buf⟩ := resp
  simp only [Consistent, NoError, probeVerdict, sessionExpired]
  cases errcode with
  | none =>
    cases ret with
    | none => simp
    | some code => by_cases hcode : code = -14 <;> simp [hcode]
  | some code =>
    by_cases hcode : code = -14
    · simp [hcode]
    · cases ret with
      | none => simp [hcode]
      | some other => simp; omega

lemma consistent_pollVerdict_iff :
    resp.Consistent resp.pollVerdict ↔ resp.NoError ∨ resp.errcode ≠ none ∧ resp.ret ≠ some 0 ∧
          (resp.ret = some sessionExpired → resp.errcode = some sessionExpired) := by
  obtain ⟨ret, errcode, errmsg, msgs, buf⟩ := resp
  simp only [Consistent, NoError, pollVerdict, sessionExpired]
  cases errcode with
  | none =>
    cases ret with
    | none => simp
    | some code => simp; omega
  | some code =>
    cases ret with
    | none => by_cases hcode : code = -14 <;> simp [hcode]
    | some other =>
      by_cases hother : other = 0
      · simp; omega
      · by_cases hcode : code = -14
        · simp [hcode]
        · simp [hother, hcode]

lemma consistent_verdicts_iff :
    (resp.Consistent resp.probeVerdict ∧ resp.Consistent resp.pollVerdict) ↔ resp.NoError ∨
        resp.errcode = some sessionExpired ∧ resp.ret ≠ some 0 := by
  rw [consistent_probeVerdict_iff, consistent_pollVerdict_iff]
  constructor
  · rintro ⟨hprobe, hpoll⟩
    rcases hpoll with hnone | ⟨hsome, hzero, -⟩
    · exact .inl hnone
    · rcases hprobe with hnone | hexpired | ⟨hnone, -⟩
      · exact .inl hnone
      · exact .inr ⟨hexpired, hzero⟩
      · exact absurd hnone hsome
  · rintro (hnone | ⟨hexpired, hzero⟩)
    · exact ⟨.inl hnone, .inl hnone⟩
    · refine ⟨.inr (.inl hexpired), .inr ⟨?_, hzero, fun _ => hexpired⟩⟩
      rw [hexpired]
      exact Option.some_ne_none _

end GetUpdatesResponse

inductive IlinkStatus where
  | unknown
  | connected
  | needsLogin
  | loggingIn
deriving Repr, DecidableEq

/-- A response, of the startup probe or of the loop, and what of it went to the
dispatch channel. -/
structure Received where
  resp : GetUpdatesResponse
  probed : Bool
  forwarded : List WeixinMessage
deriving Repr, DecidableEq

namespace Received

variable (own : Received)

/-- There is nothing to lose: the response has no messages, or the loop took it
as success. -/
def Harmless : Prop :=
  own.resp.batch = [] ∨ own.probed = false ∧ own.resp.pollVerdict = .success

/-- Only the branch for success sends messages, and all of them. -/
def Exact : Prop :=
  own.forwarded =
    if own.probed = false ∧ own.resp.pollVerdict = .success then own.resp.batch else []

lemma forwarded_eq_iff {own : Received} (hexact : own.Exact) :
    own.forwarded = own.resp.batch ↔ own.Harmless := by
  rw [hexact, Harmless]
  split
  · next hsent => exact iff_of_true rfl (.inr hsent)
  · next hsent => exact ⟨fun hnone => .inl hnone.symm, fun h => (h.resolve_right hsent).symm⟩

end Received

/-- The variables of the loop and its counters.  `received` and `covered` are a
history: the responses since the last renewal, and those of them up to the one
that the cursor is from. -/
structure UpstreamLoop where
  getUpdatesBuf : String := ""
  backoffSecs : Nat := 1
  renewing : Bool := false
  status : IlinkStatus := .unknown
  pollsOk : Nat := 0
  pollsErr : Nat := 0
  reloginAttempts : Nat := 0
  running : Bool := true
  received : List Received := []
  covered : List Received := []
deriving Repr, DecidableEq

/-- An iteration of the loop.  `interrupted` is a change of the signal that asks
for no shutdown, `closedAfter` the number of messages that the dispatcher still
takes before it is gone, and `shutdown` ends a sleep. -/
inductive UpstreamEvent where
  | shutdown
  | interrupted
  | manualRelogin (renewOk : Bool)
  | response (resp : GetUpdatesResponse) (renewOk : Bool)
      (closedAfter : Option Nat) (shutdown : Bool)
  | requestFailed (shutdown : Bool)

/-- The messages that reach the channel. -/
def taken (msgs : List WeixinMessage) : Option Nat → List WeixinMessage
  | none => msgs
  | some count => msgs.take count

/-- The channel takes all messages of a response. -/
def TakesAll (msgs : List WeixinMessage) (closedAfter : Option Nat) : Prop :=
  ∀ count, closedAfter = some count → msgs.length ≤ count

instance (msgs : List WeixinMessage) (closedAfter : Option Nat) :
    Decidable (TakesAll msgs closedAfter) :=
  decidable_of_iff (closedAfter.all (msgs.length ≤ ·) = true) (by
    cases closedAfter <;> simp [TakesAll])

lemma taken_eq_of_takesAll {msgs : List WeixinMessage} {closedAfter : Option Nat}
    (hall : TakesAll msgs closedAfter) : taken msgs closedAfter = msgs := by
  cases closedAfter with
  | none => rfl
  | some count => exact List.take_of_length_le (hall count rfl)

namespace UpstreamLoop

variable (renewal : Bool) (loop : UpstreamLoop)

/-- The status is known only where a renewal is set up. -/
def setStatus (status : IlinkStatus) : UpstreamLoop :=
  if renewal then { loop with status := status } else loop

def receive (resp : GetUpdatesResponse) (probed : Bool) (forwarded : List WeixinMessage) :
    UpstreamLoop :=
  { loop with received := loop.received ++ [⟨resp, probed, forwarded⟩] }

/-- A cursor that is not empty replaces the old one. -/
def adopt (resp : GetUpdatesResponse) : UpstreamLoop :=
  match resp.newBuf with
  | some buf =>
    { loop with getUpdatesBuf := buf, covered := loop.received }
  | none => loop

/-- The new session starts without a cursor. -/
def renewed : UpstreamLoop :=
  { loop with
    status := .connected, getUpdatesBuf := "", received := [], covered := [] }

/-- The sleep after an error. -/
def backOff (shutdown : Bool) : UpstreamLoop :=
  if shutdown then { loop with running := false }
  else { loop with backoffSecs := min (loop.backoffSecs * 2) 30 }

/-- The loop after the startup probe.  The messages of its response go nowhere. -/
def probe (answer : Option GetUpdatesResponse) (renewOk : Bool) : UpstreamLoop :=
  match answer with
  | none => {}
  | some resp =>
    let loop := receive {} resp true []
    match resp.probeVerdict with
    | .expired =>
      if renewal then
        if renewOk then loop.renewed else loop.setStatus renewal .loggingIn
      else loop
    | _ => (loop.setStatus renewal .connected).adopt resp

/-- The branch for success: the messages are sent one after the other, and the
loop ends when the dispatcher is gone. -/
def succeed (resp : GetUpdatesResponse) (closedAfter : Option Nat) : UpstreamLoop :=
  let loop := { loop with pollsOk := loop.pollsOk + 1, backoffSecs := 1 }
  let loop := loop.setStatus renewal .connected
  let loop := loop.receive resp false (taken resp.batch closedAfter)
  let loop := loop.adopt resp
  { loop with running := decide (TakesAll resp.batch closedAfter) }

/-- The branch for an expired session.  A renewal that fails is followed by a
fixed sleep and the one of every error. -/
def renew (renewOk shutdown : Bool) : UpstreamLoop :=
  if renewal then
    let loop := loop.setStatus renewal .needsLogin
    if loop.renewing = false then
      let loop :=
        { loop with reloginAttempts := loop.reloginAttempts + 1 }
      if renewOk then { loop.renewed with backoffSecs := 1, renewing := false }
      else
        ({ loop.setStatus renewal .loggingIn with
           renewing := false }).backOff shutdown
    else loop.backOff shutdown
  else loop.backOff shutdown

def step : UpstreamEvent → UpstreamLoop
  | .shutdown => { loop with running := false }
  | .interrupted => loop
  | .manualRelogin renewOk =>
    if loop.running ∧ renewal then
      let loop := { loop with reloginAttempts := loop.reloginAttempts + 1 }
      if renewOk then loop.renewed else loop.setStatus renewal .needsLogin
    else loop
  | .response resp renewOk closedAfter shutdown =>
    if loop.running then
      match resp.pollVerdict with
      | .success => loop.succeed renewal resp closedAfter
      | .expired =>
        let loop := { loop with pollsErr := loop.pollsErr + 1 }
        (loop.receive resp false []).renew renewal renewOk shutdown
      | .failed =>
        let loop := { loop with pollsErr := loop.pollsErr + 1 }
        (loop.receive resp false []).backOff shutdown
    else loop
  | .requestFailed shutdown =>
    if loop.running then
      ({ loop with pollsErr := loop.pollsErr + 1 }).backOff shutdown
    else loop

/-- How the startup probe took a response, as the status shows. -/
def probedAs (resp : GetUpdatesResponse) : Verdict :=
  if (probe true (some resp) false).status = .loggingIn then .expired else .success

/-- How the loop took an event, as its counters show. -/
def takenAs (event : UpstreamEvent) : Verdict :=
  if loop.pollsOk < (loop.step true event).pollsOk then .success
  else if loop.reloginAttempts < (loop.step true event).reloginAttempts then .expired
  else .failed

section Verdicts

variable {loop} {resp : GetUpdatesResponse} {renewOk shutdown : Bool} {closedAfter : Option Nat}

lemma probedAs_eq : probedAs resp = resp.probeVerdict := by
  unfold probedAs probe GetUpdatesResponse.probeVerdict
  dsimp only
  split
  · rfl
  · cases hbuf : resp.newBuf <;> simp [setStatus, receive, adopt, hbuf]

lemma takenAs_eq (hrunning : loop.running = true) (hidle : loop.renewing = false) :
    loop.takenAs (.response resp renewOk closedAfter shutdown) = resp.pollVerdict := by
  simp only [takenAs, step, hrunning, if_true]
  cases resp.pollVerdict with
  | success => cases hbuf : resp.newBuf <;> simp [succeed, setStatus, receive, adopt, hbuf]
  | expired =>
    cases renewOk <;> cases shutdown <;>
      simp [renew, hidle, setStatus, receive, renewed, backOff]
  | failed => cases shutdown <;> simp [receive, backOff]

/-- Both places agree with the codes exactly if there is no error at all, or the
expired session stands in `errcode` and `ret` does not say success. -/
theorem consistent_iff (hrunning : loop.running = true) (hidle : loop.renewing = false) :
    (resp.Consistent (probedAs resp) ∧
        resp.Consistent (loop.takenAs (.response resp renewOk closedAfter shutdown))) ↔
      resp.NoError ∨ resp.errcode = some sessionExpired ∧ resp.ret ≠ some 0 := by
  rw [probedAs_eq, takenAs_eq hrunning hidle, consistent_verdicts_iff]

theorem consistent_iff_expired :
    GetUpdatesResponse.Consistent { errcode := some (-14) }
      (takenAs {} (.response { errcode := some (-14) } true none false)) :=
  ((consistent_iff rfl rfl).mpr (.inr (by decide))).2

/-- An expired session that stands in `ret` alone: the probe renews, the loop
takes it as success. -/
theorem expired_ret_taken_as_success :
    probedAs { ret := some (-14) } = .expired ∧
      takenAs {} (.response { ret := some (-14) } true none false) = .success ∧
      ¬ GetUpdatesResponse.Consistent { ret := some (-14) } .success := by
  decide

end Verdicts

/-- The next request may carry its cursor: all messages of the response that it
is from, and of those before it, were sent. -/
def Covered : Prop :=
  loop.running = true → loop.getUpdatesBuf ≠ "" →
    ∀ own ∈ loop.covered, own.forwarded = own.resp.batch
deriving Decidable

/-- All responses since the last renewal that have messages were taken as success. -/
def NothingLost : Prop :=
  ∀ own ∈ loop.received, own.Harmless

/-- While the loop runs, its history says what was sent. -/
def Recorded : Prop :=
  loop.running = true → ∀ own ∈ loop.received, own.Exact

/-- The probe keeps its cursor only if its response has no messages. -/
def ProbeSafe (answer : Option GetUpdatesResponse) : Prop :=
  ∀ resp, answer = some resp → resp.probeVerdict ≠ .expired →
    resp.newBuf.isSome = true → resp.batch = []

/-- A cursor is taken over only while nothing is lost. -/
def AdoptsSafely : UpstreamEvent → Prop
  | .response resp _ closedAfter _ =>
    loop.running = true → resp.pollVerdict = .success → resp.newBuf.isSome = true → TakesAll
      resp.batch closedAfter → loop.NothingLost
  | _ => True

/-- The event is not taken as success. -/
def Unsuccessful : UpstreamEvent → Prop
  | .response resp _ _ _ => loop.running = true → resp.pollVerdict ≠ .success
  | _ => True

/-- The cursor and the history stay as they are. -/
structure Keeps (loop next : UpstreamLoop) : Prop where
  buf : next.getUpdatesBuf = loop.getUpdatesBuf
  received : next.received = loop.received
  covered : next.covered = loop.covered
  renewing : next.renewing = loop.renewing
  running : next.running = true → loop.running = true

/-- A new session. -/
structure Cleared (loop next : UpstreamLoop) : Prop where
  buf : next.getUpdatesBuf = ""
  received : next.received = []
  renewing : next.renewing = loop.renewing

/-- All that an iteration can do to the cursor. -/
inductive Outcome (renewal : Bool) (loop next : UpstreamLoop) :
    UpstreamEvent → Prop where
  | kept {event : UpstreamEvent} (hevent : loop.Unsuccessful event)
      (hkeeps : Keeps loop next) : Outcome renewal loop next event
  | cleared {event : UpstreamEvent} (hevent : loop.Unsuccessful event)
      (hcleared : Cleared loop next) : Outcome renewal loop next event
  | missed {resp : GetUpdatesResponse} {renewOk : Bool} {closedAfter : Option Nat} {shutdown : Bool}
      (hrunning : loop.running = true) (hverdict : resp.pollVerdict ≠ .success)
      (hkeeps : Keeps (loop.receive resp false []) next) :
      Outcome renewal loop next (.response resp renewOk closedAfter shutdown)
  | succeeded {resp : GetUpdatesResponse} {renewOk : Bool} {closedAfter : Option Nat}
      {shutdown : Bool} (hrunning : loop.running = true) (hverdict : resp.pollVerdict = .success)
      (hnext : next = loop.succeed renewal resp closedAfter) : Outcome renewal loop next
      (.response resp renewOk closedAfter shutdown)

variable {renewal loop}

lemma Keeps.refl (loop : UpstreamLoop) : Keeps loop loop :=
  ⟨rfl, rfl, rfl, rfl, id⟩

variable {next : UpstreamLoop} {answer : Option GetUpdatesResponse}

lemma Keeps.trans {last : UpstreamLoop} (hfirst : Keeps loop next)
    (hlast : Keeps next last) : Keeps loop last :=
  ⟨hlast.buf.trans hfirst.buf, hlast.received.trans hfirst.received,
    hlast.covered.trans hfirst.covered, hlast.renewing.trans hfirst.renewing,
    fun hrunning => hfirst.running (hlast.running hrunning)⟩

lemma keeps_setStatus (loop : UpstreamLoop) (status : IlinkStatus) :
    Keeps loop (loop.setStatus renewal status) := by
  cases renewal <;> exact ⟨rfl, rfl, rfl, rfl, id⟩

lemma keeps_backOff (loop : UpstreamLoop) (shutdown : Bool) :
    Keeps loop (loop.backOff shutdown) := by
  cases shutdown with
  | false => exact ⟨rfl, rfl, rfl, rfl, id⟩
  | true => exact ⟨rfl, rfl, rfl, rfl, fun hrunning => by cases hrunning⟩

/-- The branch for an expired session ends with a new session or with the old
cursor. -/
lemma renew_cases (loop : UpstreamLoop) (renewOk shutdown : Bool) :
    Keeps loop (loop.renew renewal renewOk shutdown) ∨
      Cleared loop (loop.renew renewal renewOk shutdown) := by
  cases renewal with
  | false => exact .inl (keeps_backOff loop shutdown)
  | true =>
    simp only [renew, if_true]
    split
    · next hrenewing =>
      split
      · exact .inr ⟨rfl, rfl, hrenewing.symm⟩
      · refine .inl (.trans ?_ (keeps_backOff _ shutdown))
        exact ⟨rfl, rfl, rfl, hrenewing.symm, id⟩
    · refine .inl (.trans ?_ (keeps_backOff _ shutdown))
      exact ⟨rfl, rfl, rfl, rfl, id⟩

lemma outcome_step (renewal : Bool) (loop : UpstreamLoop) (event : UpstreamEvent) :
    Outcome renewal loop (loop.step renewal event) event := by
  cases event with
  | shutdown =>
    exact .kept trivial ⟨rfl, rfl, rfl, rfl, fun hrunning => by cases hrunning⟩
  | interrupted => exact .kept trivial (.refl loop)
  | manualRelogin renewOk =>
    simp only [step]
    split
    · split
      · exact .cleared trivial ⟨rfl, rfl, rfl⟩
      · refine .kept trivial (.trans ?_ (keeps_setStatus _ _))
        exact ⟨rfl, rfl, rfl, rfl, id⟩
    · exact .kept trivial (.refl loop)
  | response resp renewOk closedAfter shutdown =>
    simp only [step]
    by_cases hrunning : loop.running = true
    · have herror : Keeps (loop.receive resp false [])
          (({ loop with pollsErr := loop.pollsErr + 1 }).receive resp false []) :=
        ⟨rfl, rfl, rfl, rfl, id⟩
      rw [if_pos hrunning]
      cases hverdict : resp.pollVerdict with
      | success => exact .succeeded hrunning hverdict rfl
      | expired =>
        have hother : resp.pollVerdict ≠ .success := by
          rw [hverdict]
          decide
        rcases renew_cases _ renewOk shutdown with hkeeps | hcleared
        · exact .missed hrunning hother (herror.trans hkeeps)
        · exact .cleared (fun _ => hother) ⟨hcleared.buf, hcleared.received, hcleared.renewing⟩
      | failed =>
        have hother : resp.pollVerdict ≠ .success := by
          rw [hverdict]
          decide
        exact .missed hrunning hother (herror.trans (keeps_backOff _ shutdown))
    · rw [if_neg hrunning]
      exact .kept (fun h => absurd h hrunning) (.refl loop)
  | requestFailed shutdown =>
    simp only [step]
    split
    · refine .kept trivial (.trans ?_ (keeps_backOff _ shutdown))
      exact ⟨rfl, rfl, rfl, rfl, id⟩
    · exact .kept trivial (.refl loop)

lemma adoptsSafely_of_unsuccessful {event : UpstreamEvent}
    (hevent : loop.Unsuccessful event) : loop.AdoptsSafely event := by
  cases event with
  | response resp renewOk closedAfter shutdown =>
    intro hrunning hverdict
    exact absurd hverdict (hevent hrunning)
  | _ => trivial

lemma Keeps.covered_of (hkeeps : Keeps loop next) (hcovered : loop.Covered) : next.Covered := by
  intro hrunning hbuf
  rw [hkeeps.covered]
  rw [hkeeps.buf] at hbuf
  exact hcovered (hkeeps.running hrunning) hbuf

lemma Cleared.covered_of (hcleared : Cleared loop next) : next.Covered :=
  fun _ hbuf => absurd hcleared.buf hbuf

lemma succeed_eq (resp : GetUpdatesResponse) (closedAfter : Option Nat) :
    (loop.succeed renewal resp closedAfter).received =
        loop.received ++ [⟨resp, false, taken resp.batch closedAfter⟩] ∧
      (loop.succeed renewal resp closedAfter).renewing = loop.renewing ∧
      (loop.succeed renewal resp closedAfter).running = decide (TakesAll resp.batch closedAfter) ∧
      (loop.succeed renewal resp closedAfter).getUpdatesBuf = resp.newBuf.getD loop.getUpdatesBuf ∧
      (loop.succeed renewal resp closedAfter).covered =
        if resp.newBuf.isSome then
          loop.received ++ [⟨resp, false, taken resp.batch closedAfter⟩]
        else loop.covered := by
  cases renewal <;> cases hbuf : resp.newBuf <;>
    simp [succeed, setStatus, receive, adopt, hbuf]

lemma recorded_step (hrecorded : loop.Recorded) (event : UpstreamEvent) :
    (loop.step renewal event).Recorded := by
  intro hnext own hown
  cases outcome_step renewal loop event with
  | kept _ hkeeps =>
    rw [hkeeps.received] at hown
    exact hrecorded (hkeeps.running hnext) own hown
  | cleared _ hcleared =>
    rw [hcleared.received] at hown
    cases hown
  | missed hrunning hverdict hkeeps =>
    rw [hkeeps.received] at hown
    rcases List.mem_append.mp hown with hold | hnew
    · exact hrecorded hrunning own hold
    · obtain rfl := List.mem_singleton.mp hnew
      exact (if_neg fun hsent => hverdict hsent.2).symm
  | @succeeded resp _ closedAfter _ hrunning hverdict hsucceed =>
    obtain ⟨hreceived, -, hends, -, -⟩ := @succeed_eq renewal loop resp closedAfter
    rw [hsucceed, hends, decide_eq_true_iff] at hnext
    rw [hsucceed, hreceived] at hown
    rcases List.mem_append.mp hown with hold | hnew
    · exact hrecorded hrunning own hold
    · obtain rfl := List.mem_singleton.mp hnew
      exact (taken_eq_of_takesAll hnext).trans (if_pos ⟨rfl, hverdict⟩).symm

lemma recorded_probe (renewal : Bool) (answer : Option GetUpdatesResponse) (renewOk : Bool) :
    (probe renewal answer renewOk).Recorded := by
  intro _ own hown
  cases answer with
  | none => cases hown
  | some resp =>
    have hprobed : own ∈ (receive {} resp true []).received := by
      unfold probe adopt at hown
      cases renewal <;> cases renewOk <;> cases hbuf : resp.newBuf <;>
        cases hverdict : resp.probeVerdict <;> simp_all [setStatus, renewed]
    obtain rfl := List.mem_singleton.mp hprobed
    exact (if_neg fun hsent => Bool.noConfusion hsent.1).symm

lemma covered_succeed_iff (hrecorded : loop.Recorded) (hcovered : loop.Covered)
    (hrunning : loop.running = true) (resp : GetUpdatesResponse) (closedAfter : Option Nat) :
    (loop.succeed renewal resp closedAfter).Covered ↔
      (resp.newBuf.isSome = true → TakesAll resp.batch closedAfter → loop.NothingLost) := by
  obtain ⟨-, -, hnext, hcursor, hlist⟩ :=
    @succeed_eq renewal loop resp closedAfter
  rw [Covered, hnext, hcursor, hlist, decide_eq_true_iff]
  cases hbuf : resp.newBuf with
  | none =>
    exact iff_of_true (fun _ hne => hcovered hrunning hne) (fun hsome => by cases hsome)
  | some buf =>
    constructor
    · intro hall _ htakes own hown
      apply (Received.forwarded_eq_iff (hrecorded hrunning own hown)).mp
      exact hall htakes (newBuf_ne_empty hbuf) own (List.mem_append_left _ hown)
    · intro hnothing htakes _ own hown
      rcases List.mem_append.mp hown with hold | hnew
      · apply (Received.forwarded_eq_iff (hrecorded hrunning own hold)).mpr
        exact hnothing rfl htakes own hold
      · obtain rfl := List.mem_singleton.mp hnew
        exact taken_eq_of_takesAll htakes

/-- An iteration keeps the cursor covered exactly if it takes one over safely. -/
lemma covered_step_iff (hrecorded : loop.Recorded) (hcovered : loop.Covered)
    (event : UpstreamEvent) : (loop.step renewal event).Covered ↔ loop.AdoptsSafely event := by
  cases outcome_step renewal loop event with
  | kept hevent hkeeps =>
    exact iff_of_true (hkeeps.covered_of hcovered) (adoptsSafely_of_unsuccessful hevent)
  | cleared hevent hcleared =>
    exact iff_of_true hcleared.covered_of (adoptsSafely_of_unsuccessful hevent)
  | missed hrunning hverdict hkeeps =>
    exact iff_of_true (hkeeps.covered_of hcovered) (fun _ hsuccess => absurd hsuccess hverdict)
  | succeeded hrunning hverdict hnext =>
    rw [hnext, covered_succeed_iff hrecorded hcovered hrunning]
    exact ⟨fun hsafe _ _ => hsafe, fun hsafe => hsafe hrunning hverdict⟩

lemma covered_adopt_iff (hcovered : loop.Covered)
    (hrunning : loop.running = true) (resp : GetUpdatesResponse) :
    (loop.adopt resp).Covered ↔ (resp.newBuf.isSome = true →
      ∀ own ∈ loop.received, own.forwarded = own.resp.batch) := by
  unfold adopt
  cases hbuf : resp.newBuf with
  | none => exact iff_of_true hcovered (fun hsome => by cases hsome)
  | some buf =>
    constructor
    · intro hall _
      exact hall hrunning (newBuf_ne_empty hbuf)
    · intro hnothing _ _
      exact hnothing rfl

lemma covered_probe_iff (renewal : Bool) (answer : Option GetUpdatesResponse) (renewOk : Bool) :
    (probe renewal answer renewOk).Covered ↔ ProbeSafe answer := by
  cases answer with
  | none =>
    exact iff_of_true (fun _ hbuf => absurd rfl hbuf) (fun _ hresp => by cases hresp)
  | some resp =>
    simp only [probe, ProbeSafe, Option.some.injEq, forall_eq']
    have hempty : (receive {} resp true []).Covered :=
      fun _ hbuf => absurd rfl hbuf
    have hlost : (∀ own ∈ (receive {} resp true []).received,
        own.forwarded = own.resp.batch) ↔ resp.batch = [] := by
      constructor
      · intro hnothing
        exact (hnothing _ List.mem_cons_self).symm
      · intro hnone own hown
        obtain rfl := List.mem_singleton.mp hown
        exact hnone.symm
    cases hverdict : resp.probeVerdict with
    | expired =>
      refine iff_of_true ?_ (absurd rfl)
      cases renewal <;> cases renewOk <;> exact hempty
    | _ =>
      rw [← hlost, forall_prop_of_true (by decide)]
      cases renewal with
      | false => exact covered_adopt_iff hempty rfl resp
      | true =>
        have hshown : (setStatus true (receive {} resp true []) .connected).Covered := hempty
        exact covered_adopt_iff hshown rfl resp

/-- Over every sequence of responses: the cursor of each request is covered
exactly if the probe gave its cursor without messages and no cursor was taken
over after a response with messages that was the probe's or not a success. -/
theorem covered_throughout_iff (renewal : Bool)
    (answer : Option GetUpdatesResponse) (renewOk : Bool) (events : List UpstreamEvent) :
    Throughout (step renewal) Covered (probe renewal answer renewOk) events ↔
      ProbeSafe answer ∧ EveryStep (step renewal) AdoptsSafely
          (probe renewal answer renewOk) events := by
  have hruns : (probe renewal answer renewOk).Covered →
      (Throughout (step renewal) Covered (probe renewal answer renewOk) events ↔
        EveryStep (step renewal) AdoptsSafely (probe renewal answer renewOk) events) :=
    throughout_iff_of_step (fun _ event hrecorded => recorded_step hrecorded event)
      (fun _ event hrecorded hcovered => covered_step_iff hrecorded hcovered event)
      (recorded_probe renewal answer renewOk)
  rw [← covered_probe_iff renewal answer renewOk]
  constructor
  · intro hall
    have hprobe := hall [] List.nil_prefix
    exact ⟨hprobe, (hruns hprobe).mp hall⟩
  · rintro ⟨hprobe, hevery⟩
    exact (hruns hprobe).mpr hevery

end UpstreamLoop

/-- A first response with a message and a cursor. -/
def Sample.probeAnswer : GetUpdatesResponse :=
  { ret := some 0
    msgs := some [{ fromUserId := some "user", messageId := some 1 }]
    getUpdatesBuf := some "cursor-1" }

/-- The message that the startup probe returns is lost: the next request carries
the cursor behind it. -/
theorem probe_loses_message :
    (UpstreamLoop.probe true (some Sample.probeAnswer) true).getUpdatesBuf = "cursor-1" ∧
      (UpstreamLoop.probe true (some Sample.probeAnswer) true).covered =
        [⟨Sample.probeAnswer, true, []⟩] ∧
      ¬ (UpstreamLoop.probe true (some Sample.probeAnswer) true).Covered := by
  decide +kernel

end IlinkHub
