/-
The limits on concurrent long polls (`PollTracker` and `PollGuard` of
`hub/state.rs`, the start of `getupdates` in `server/routes/bot.rs`).  A request
stops between any two of its steps: the counter, its check and roll-back, the
update under the lock, the gate of its token and the two steps of the destructor.
-/
import IlinkHub.Census
import IlinkHub.Query
import IlinkHub.Transition

namespace IlinkHub

open Transition Census

def maxConcurrentPollsPerVtoken : Nat :=
  3

/-- The total is an integer here, so that a decrement too many would show. -/
structure PollTracker where
  counts : AList fun _ : String => Nat
  total : Int

/-- The update of `enter` under the lock, with the new count. -/
def PollTracker.increment (vtoken : String) (tracker : PollTracker) : Nat × PollTracker :=
  let count := (tracker.counts.lookup vtoken).getD 0 + 1
  (count, { tracker with counts := tracker.counts.insert vtoken count })

/-- The update of the destructor under the lock. -/
def PollTracker.decrement (vtoken : String) (tracker : PollTracker) : PollTracker :=
  match tracker.counts.lookup vtoken with
  | none => tracker
  | some count =>
    if count - 1 = 0 then
      { tracker with counts := tracker.counts.erase vtoken }
    else
      { tracker with counts := tracker.counts.insert vtoken (count - 1) }

/-- The error a request is answered with. -/
structure PollRefusal where
  ret : Int
  errmsg : String
deriving Repr, DecidableEq

def hubLimitReached (total : Int) (cap : Nat) : PollRefusal :=
  ⟨503, "Hub is at capacity (" ++ toString total ++ "/" ++ toString cap ++
    " concurrent long-polls). Retry later."⟩

def tooManyPolls : PollRefusal :=
  ⟨429, "too many concurrent polls for this vtoken"⟩

/-- From `added` to `overCap` or `underCap` the request is in `enter`, from
`entered` on it holds a guard, and from `releasing` on the guard is dropped. -/
inductive PollStage where
  | arrived
  | added (prevTotal : Int)
  | overCap (prevTotal : Int)
  | underCap
  | entered (perVtoken : Nat)
  | polling
  | releasing (refusal : Option PollRefusal)
  | released (refusal : Option PollRefusal)
  | finished (refusal : Option PollRefusal)
deriving Repr, DecidableEq

structure PollRequest where
  vtoken : String
  phase : PollStage
deriving Repr, DecidableEq

namespace PollRequest

/-- The next step of a request; one that polls is ended from outside. -/
def advance (cap : Nat) (tracker : PollTracker) (request : PollRequest) : PollTracker × PollStage :=
  match request.phase with
  | .arrived =>
    ({ tracker with total := tracker.total + 1 }, .added tracker.total)
  | .added prevTotal =>
    (tracker, if (cap : Int) ≤ prevTotal then .overCap prevTotal
      else .underCap)
  | .overCap prevTotal =>
    ({ tracker with total := tracker.total - 1 }, .finished (some (hubLimitReached prevTotal cap)))
  | .underCap =>
    let counted := tracker.increment request.vtoken
    (counted.2, .entered counted.1)
  | .entered perVtoken =>
    (tracker, if maxConcurrentPollsPerVtoken < perVtoken then
      .releasing (some tooManyPolls) else .polling)
  | .polling => (tracker, .polling)
  | .releasing refusal =>
    ({ tracker with total := tracker.total - 1 }, .released refusal)
  | .released refusal =>
    (tracker.decrement request.vtoken, .finished refusal)
  | .finished refusal => (tracker, .finished refusal)

/-- The handler returns or its client disconnects. -/
def finish (request : PollRequest) : PollStage :=
  match request.phase with
  | .polling => .releasing none
  | phase => phase

variable (request : PollRequest)

/-- The guard exists and is not being dropped. -/
def isLive : Bool :=
  match request.phase with
  | .entered _ | .polling => true
  | _ => false

/-- An `enter` or a release is in progress. -/
def isBusy : Bool :=
  match request.phase with
  | .added _ | .overCap _ | .underCap | .releasing _ | .released _ => true
  | _ => false

/-- The request passed the gate of its token and still holds its guard. -/
def hasPassed (vtoken : String) : Bool :=
  match request.phase with
  | .polling => request.vtoken == vtoken
  | _ => false

/-- The request stands in the total. -/
def inTotal : Bool :=
  match request.phase with
  | .added _ | .overCap _ | .underCap | .entered _ | .polling
  | .releasing _ => true
  | _ => false

/-- The request stands in the count of the token. -/
def inCount (vtoken : String) : Bool :=
  match request.phase with
  | .entered _ | .polling | .releasing _ | .released _ =>
    request.vtoken == vtoken
  | _ => false

/-- The total that the request saw lets it through, or has let it through. -/
def isAdmitted (cap : Nat) : Bool :=
  match request.phase with
  | .added prevTotal => decide (prevTotal < cap)
  | .underCap | .entered _ | .polling | .releasing _ => true
  | _ => false

/-- The count that the request saw lets it through the gate, or has. -/
def isGated (vtoken : String) : Bool :=
  match request.phase with
  | .entered perVtoken =>
    request.vtoken == vtoken && decide (perVtoken ≤ maxConcurrentPollsPerVtoken)
  | .polling => request.vtoken == vtoken
  | _ => false

end PollRequest

open PollRequest

structure PollHub where
  tracker : PollTracker
  requests : List PollRequest

inductive PollEvent where
  | arrive (vtoken : String)
  | advance (i : Nat)
  | finish (i : Nat)
deriving Repr, DecidableEq

namespace PollHub

def new : PollHub :=
  ⟨⟨∅, 0⟩, []⟩

def setPhase (hub : PollHub) (i : Nat) (request : PollRequest)
    (next : PollTracker × PollStage) : PollHub :=
  ⟨next.1, hub.requests.set i { request with phase := next.2 }⟩

def step (cap : Nat) (hub : PollHub) : PollEvent → PollHub
  | .arrive vtoken =>
    { hub with requests := hub.requests ++ [⟨vtoken, .arrived⟩] }
  | .advance i =>
    match hub.requests[i]? with
    | some request =>
      hub.setPhase i request (request.advance cap hub.tracker)
    | none => hub
  | .finish i =>
    match hub.requests[i]? with
    | some request => hub.setPhase i request (hub.tracker, request.finish)
    | none => hub

/-- An entry of the map with its number; none stands for zero. -/
def entry (count : Nat) : Option Nat :=
  if count = 0 then none else some count

variable (cap : Nat) (hub : PollHub)

def liveGuards : Nat :=
  hub.requests.countP isLive

def liveGuardsOf (vtoken : String) : Nat :=
  hub.requests.countP fun request =>
    request.isLive && request.vtoken == vtoken

/-- The limits and the accounts of the polls. -/
structure Accounts : Prop where
  guards : hub.liveGuards ≤ cap
  passed : ∀ vtoken, hub.requests.countP (·.hasPassed vtoken) ≤ maxConcurrentPollsPerVtoken
  nonneg : 0 ≤ hub.tracker.total
  quiet : (∀ request ∈ hub.requests, request.isBusy = false) → hub.tracker.total = hub.liveGuards ∧
      ∀ vtoken, hub.tracker.counts.lookup vtoken = entry (hub.liveGuardsOf vtoken)

/-- The invariant, with the requests that are between two steps. -/
structure Balanced : Prop where
  total : hub.tracker.total = hub.requests.countP inTotal
  counts : ∀ vtoken, hub.tracker.counts.lookup vtoken =
    entry (hub.requests.countP (·.inCount vtoken))
  admitted : hub.requests.countP (·.isAdmitted cap) ≤ cap
  gated : ∀ vtoken, hub.requests.countP (·.isGated vtoken) ≤ maxConcurrentPollsPerVtoken

@[simp] lemma entry_zero : entry 0 = none := rfl

lemma entry_of_pos {count : Nat} (hpos : 0 < count) : entry count = some count :=
  if_neg hpos.ne'

lemma getD_entry (count : Nat) : (entry count).getD 0 = count := by
  cases count with
  | zero => rfl
  | succ count => rfl

variable {cap hub} {i : Nat} {request : PollRequest} {next : PollTracker × PollStage}

/-- What a request that moves owes: to the total, to the counts, to the cap and
to the gates. -/
structure Moves (cap : Nat) (hub : PollHub) (request : PollRequest)
    (next : PollTracker × PollStage) : Prop where
  total : next.1.total + (if request.inTotal then 1 else 0 : Nat) = hub.tracker.total +
      (if inTotal { request with phase := next.2 } then 1
        else 0 : Nat)
  counts : ∀ vtoken count later,
    hub.tracker.counts.lookup vtoken = entry count →
    later + (if request.inCount vtoken then 1 else 0) =
      count + (if inCount { request with phase := next.2 } vtoken then 1 else 0) →
    next.1.counts.lookup vtoken = entry later
  admitted : isAdmitted { request with phase := next.2 } cap =
    true → request.isAdmitted cap = true ∨ hub.tracker.total < cap
  gated : ∀ vtoken,
    isGated { request with phase := next.2 } vtoken = true →
      request.isGated vtoken = true ∨ ∀ count, hub.tracker.counts.lookup vtoken = entry count →
          count < maxConcurrentPollsPerVtoken

lemma inTotal_of_isAdmitted (request : PollRequest)
    (hadmitted : request.isAdmitted cap = true) : request.inTotal = true := by
  obtain ⟨vtoken, phase⟩ := request
  cases phase with
  | arrived | overCap _ | released _ | finished _ => cases hadmitted
  | _ => rfl

lemma inCount_of_isGated {vtoken : String} (request : PollRequest)
    (hgated : request.isGated vtoken = true) : request.inCount vtoken = true := by
  obtain ⟨own, phase⟩ := request
  cases phase with
  | entered perVtoken => exact (Bool.and_eq_true_iff.mp hgated).1
  | polling => exact hgated
  | _ => cases hgated

lemma Balanced.setPhase (hbalanced : hub.Balanced cap) (hold : hub.requests[i]? = some request)
    (hmoves : Moves cap hub request next) : (hub.setPhase i request next).Balanced cap where
  total := by
    have hcount := @countP_set _ _ _ _ { request with phase := next.2 } inTotal hold
    have htotal := hmoves.total
    rw [hbalanced.total] at htotal
    simp only [PollHub.setPhase]
    omega
  counts vtoken :=
    hmoves.counts vtoken _ _ (hbalanced.counts vtoken) (countP_set (·.inCount vtoken) hold)
  admitted := by
    apply countP_set_le inTotal_of_isAdmitted hold hbalanced.admitted
    intro hnew
    refine (hmoves.admitted hnew).imp_right fun hroom => ?_
    rw [hbalanced.total] at hroom
    exact_mod_cast hroom
  gated vtoken := by
    apply countP_set_le inCount_of_isGated hold (hbalanced.gated vtoken)
    intro hnew
    refine (hmoves.gated vtoken hnew).imp_right fun hroom => ?_
    exact hroom _ (hbalanced.counts vtoken)

/-- A request that stands in the same counts before and after, and leaves the
map alone. -/
lemma moves_of_sameCounts
    (htotal : next.1.total + (if request.inTotal then 1 else 0 : Nat) = hub.tracker.total +
        (if inTotal { request with phase := next.2 } then 1
          else 0 : Nat))
    (hcounts : next.1.counts = hub.tracker.counts)
    (hinCount : ∀ vtoken, inCount { request with phase := next.2 } vtoken = request.inCount vtoken)
    (hadmitted : isAdmitted { request with phase := next.2 } cap =
      true → request.isAdmitted cap = true ∨ hub.tracker.total < cap)
    (hgated : ∀ vtoken,
      isGated { request with phase := next.2 } vtoken = true → request.isGated vtoken = true) :
    Moves cap hub request next where
  total := htotal
  counts vtoken count later hlookup hlater := by
    rw [hinCount] at hlater
    rw [hcounts, hlookup, Nat.add_right_cancel hlater]
  admitted := hadmitted
  gated vtoken hnew := Or.inl (hgated vtoken hnew)

lemma lookup_increment (tracker : PollTracker) (own vtoken : String) :
    (tracker.increment own).2.counts.lookup vtoken =
      if vtoken = own then some ((tracker.counts.lookup own).getD 0 + 1)
      else tracker.counts.lookup vtoken :=
  Query.lookup_insert _ _ _ _

lemma lookup_decrement (tracker : PollTracker) (own vtoken : String) :
    (tracker.decrement own).counts.lookup vtoken =
      if vtoken = own then
        (tracker.counts.lookup own).bind fun count => entry (count - 1)
      else tracker.counts.lookup vtoken := by
  unfold PollTracker.decrement
  cases hown : tracker.counts.lookup own with
  | none =>
    by_cases hsame : vtoken = own
    · rw [if_pos hsame, hsame, hown, Option.bind_none]
    · rw [if_neg hsame]
  | some count =>
    by_cases hlast : count - 1 = 0
    · simp [hlast, Query.lookup_erase]
    · simp [hlast, Query.lookup_insert, entry_of_pos (Nat.pos_of_ne_zero hlast)]

@[simp] lemma total_increment (tracker : PollTracker) (own : String) :
    (tracker.increment own).2.total = tracker.total := rfl

@[simp] lemma total_decrement (tracker : PollTracker) (own : String) :
    (tracker.decrement own).total = tracker.total := by
  unfold PollTracker.decrement
  split
  · rfl
  · split <;> rfl

/-- The update under the lock puts the request into the count of its token. -/
lemma moves_underCap (vtoken : String) :
    Moves cap hub ⟨vtoken, .underCap⟩
      (PollRequest.advance cap hub.tracker ⟨vtoken, .underCap⟩) where
  total := by simp [PollRequest.advance, inTotal]
  counts other count later hlookup hlater := by
    simp only [PollRequest.advance, inCount, beq_iff_eq,
      Bool.false_eq_true, if_false, Nat.add_zero] at hlater
    simp only [PollRequest.advance, lookup_increment]
    by_cases hother : other = vtoken
    · subst hother
      rw [if_pos rfl] at hlater
      rw [if_pos rfl, hlookup, getD_entry, hlater, entry_of_pos count.succ_pos]
    · rw [if_neg (Ne.symm hother)] at hlater
      rw [if_neg hother, hlookup, hlater, Nat.add_zero]
  admitted _ := Or.inl rfl
  gated other hnew := by
    right
    intro count hlookup
    simp only [PollRequest.advance, isGated, PollTracker.increment,
      Bool.and_eq_true, beq_iff_eq, decide_eq_true_eq] at hnew
    obtain ⟨rfl, hlimit⟩ := hnew
    rw [hlookup, getD_entry] at hlimit
    exact hlimit

lemma moves_released (vtoken : String) (refusal : Option PollRefusal) :
    Moves cap hub ⟨vtoken, .released refusal⟩
      (PollRequest.advance cap hub.tracker ⟨vtoken, .released refusal⟩) where
  total := by simp [PollRequest.advance, inTotal]
  counts other count later hlookup hlater := by
    simp only [PollRequest.advance, inCount, beq_iff_eq,
      Bool.false_eq_true, if_false, Nat.add_zero] at hlater
    simp only [PollRequest.advance, lookup_decrement]
    by_cases hother : other = vtoken
    · subst hother
      rw [if_pos rfl] at hlater
      rw [if_pos rfl, hlookup, ← hlater, entry_of_pos later.succ_pos]
      rfl
    · rw [if_neg (Ne.symm hother), Nat.add_zero] at hlater
      rw [if_neg hother, hlookup, hlater]
  admitted hnew := by cases hnew
  gated other hnew := by cases hnew

lemma moves_advance (cap : Nat) (hub : PollHub) (request : PollRequest) :
    Moves cap hub request (request.advance cap hub.tracker) := by
  obtain ⟨vtoken, phase⟩ := request
  cases phase with
  | arrived =>
    refine moves_of_sameCounts ?_ rfl (fun _ => rfl) ?_ fun _ => id
    · simp [advance, inTotal]
    · intro hnew
      exact .inr (of_decide_eq_true hnew)
  | added prevTotal =>
    by_cases hcap : cap ≤ prevTotal
    · simp only [advance, hcap]
      exact moves_of_sameCounts rfl rfl (fun _ => rfl)
        (fun hnew => by cases hnew) (fun _ hnew => by cases hnew)
    · simp only [advance, hcap]
      exact moves_of_sameCounts rfl rfl (fun _ => rfl)
        (fun _ => .inl (decide_eq_true (not_le.mp hcap))) (fun _ hnew => by cases hnew)
  | overCap prevTotal =>
    refine moves_of_sameCounts ?_ rfl (fun _ => rfl)
      (fun hnew => by cases hnew) (fun _ hnew => by cases hnew)
    simp [advance, inTotal]
  | underCap => exact moves_underCap vtoken
  | entered perVtoken =>
    by_cases hover : maxConcurrentPollsPerVtoken < perVtoken
    · simp only [advance, hover]
      exact moves_of_sameCounts rfl rfl (fun _ => rfl) (fun _ => .inl rfl)
        (fun _ hnew => by cases hnew)
    · simp only [advance, hover]
      refine moves_of_sameCounts rfl rfl (fun _ => rfl) (fun _ => .inl rfl) (fun other hnew => ?_)
      exact Bool.and_eq_true_iff.mpr ⟨hnew, decide_eq_true (not_lt.mp hover)⟩
  | releasing refusal =>
    refine moves_of_sameCounts ?_ rfl (fun _ => rfl)
      (fun hnew => by cases hnew) (fun _ hnew => by cases hnew)
    simp [advance, inTotal]
  | released refusal => exact moves_released vtoken refusal
  | _ => exact moves_of_sameCounts rfl rfl (fun _ => rfl) .inl fun _ => id

lemma moves_finish (cap : Nat) (hub : PollHub) (request : PollRequest) :
    Moves cap hub request (hub.tracker, request.finish) := by
  obtain ⟨vtoken, phase⟩ := request
  cases phase with
  | polling =>
    exact moves_of_sameCounts rfl rfl (fun _ => rfl) (fun _ => .inl rfl)
      (fun _ hnew => by cases hnew)
  | _ => exact moves_of_sameCounts rfl rfl (fun _ => rfl) .inl fun _ => id

lemma Balanced.arrive (hbalanced : hub.Balanced cap) (vtoken : String) :
    (hub.step cap (.arrive vtoken)).Balanced cap where
  total := by
    have hbefore := hbalanced.total
    simpa [PollHub.step, inTotal] using hbefore
  counts other := by
    have hbefore := hbalanced.counts other
    simpa [PollHub.step, inCount] using hbefore
  admitted := by
    have hbefore := hbalanced.admitted
    simpa [PollHub.step, isAdmitted] using hbefore
  gated other := by
    have hbefore := hbalanced.gated other
    simpa [PollHub.step, isGated] using hbefore

lemma Balanced.step (hbalanced : hub.Balanced cap) (event : PollEvent) :
    (hub.step cap event).Balanced cap := by
  cases event with
  | arrive vtoken => exact hbalanced.arrive vtoken
  | advance i =>
    simp only [PollHub.step]
    split
    · next request hrequest =>
      exact hbalanced.setPhase hrequest (moves_advance cap hub request)
    · exact hbalanced
  | finish i =>
    simp only [PollHub.step]
    split
    · next request hrequest =>
      exact hbalanced.setPhase hrequest (moves_finish cap hub request)
    · exact hbalanced

lemma balanced_new (cap : Nat) : new.Balanced cap :=
  ⟨rfl, fun _ => rfl, Nat.zero_le _, fun _ => Nat.zero_le _⟩

/-- Between the steps, those that stand in the total and in the counts are the
holders of live guards. -/
lemma inTotal_of_not_isBusy (request : PollRequest) (hquiet : request.isBusy = false) :
    request.inTotal = request.isLive ∧ ∀ vtoken, request.inCount vtoken =
        (request.isLive && request.vtoken == vtoken) := by
  obtain ⟨own, phase⟩ := request
  cases phase with
  | arrived | entered _ | polling | finished _ => exact ⟨rfl, fun _ => rfl⟩
  | _ => cases hquiet

lemma accounts_of_balanced (hbalanced : hub.Balanced cap) : hub.Accounts cap where
  guards := by
    refine le_trans (List.countP_mono_left ?_) hbalanced.admitted
    rintro ⟨vtoken, phase⟩ - hlive
    cases phase with
    | entered _ | polling => rfl
    | _ => cases hlive
  passed vtoken := by
    refine le_trans (List.countP_mono_left ?_) (hbalanced.gated vtoken)
    rintro ⟨own, phase⟩ - hpassed
    cases phase with
    | polling => exact hpassed
    | _ => cases hpassed
  nonneg := by
    rw [hbalanced.total]
    exact Int.natCast_nonneg _
  quiet hquiet := by
    have hlive := fun request hrequest =>
      inTotal_of_not_isBusy request (hquiet request hrequest)
    constructor
    · rw [hbalanced.total, liveGuards, List.countP_congr]
      intro request hrequest
      rw [(hlive request hrequest).1]
    · intro vtoken
      rw [hbalanced.counts vtoken, liveGuardsOf, List.countP_congr]
      intro request hrequest
      rw [(hlive request hrequest).2 vtoken]

/-- The accounts of the polls are right at every moment of every run. -/
theorem accounts_run (cap : Nat) (events : List PollEvent) :
    (run (step cap) new events).Accounts cap := by
  have hstep : ∀ (hub : PollHub) (event : PollEvent), hub.Balanced cap →
      (hub.step cap event).Balanced cap :=
    fun _ event hbalanced => hbalanced.step event
  exact accounts_of_balanced (run_invariant hstep (balanced_new cap) events)

/-- The second request comes before the first has rolled anything back, and is
turned away at a cap of one. -/
example :
    let hub := run (step 1) new
      [.arrive "vt-a", .arrive "vt-b", .advance 0, .advance 1, .advance 1,
        .advance 1, .advance 0, .advance 0, .advance 0]
    hub.requests = [⟨"vt-a", .polling⟩, ⟨"vt-b", .finished (some ⟨503,
      "Hub is at capacity (1/1 concurrent long-polls). Retry later."⟩)⟩] ∧
      hub.tracker.total = 1 ∧ hub.tracker.counts.lookup "vt-a" = some 1 := by
  decide +kernel

end PollHub

end IlinkHub
