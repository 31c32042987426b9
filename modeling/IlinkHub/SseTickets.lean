/-
The tickets that open the QR stream of the admin page (`server/sse_ticket.rs`).
-/
import IlinkHub.History
import IlinkHub.MasterKey
import IlinkHub.Query

namespace IlinkHub

open History

/-- `TICKET_TTL` in nanoseconds. -/
def ticketTtl : Nat :=
  30000000000

/-- The tickets with the times when they expire. -/
structure SseTicketStore where
  inner : AList fun _ : String => Nat

inductive TicketCall where
  | issue (bytes : Vector UInt8 16) (now : Nat)
  | consume (ticket : String) (now : Nat)

def TicketCall.now : TicketCall → Nat
  | issue _ now | consume _ now => now

inductive TicketAnswer where
  | issued (ticket : String)
  | consumed (valid : Bool)
deriving DecidableEq

namespace SseTicketStore

variable (store : SseTicketStore)

def issue (bytes : Vector UInt8 16) (now : Nat) : String × SseTicketStore :=
  let ticket := hexRendering false bytes.toList
  let kept := Query.retain (fun _ exp => decide (now < exp)) store.inner
  (ticket, ⟨kept.insert ticket (now + ticketTtl)⟩)

def consume (ticket : String) (now : Nat) : Bool × SseTicketStore :=
  if ticket = "" then (false, store)
  else ((store.inner.lookup ticket).any fun exp => decide (now < exp), ⟨store.inner.erase ticket⟩)

def answer : TicketCall → TicketAnswer × SseTicketStore
  | .issue bytes now => (store.issue bytes now).map .issued id
  | .consume ticket now => (store.consume ticket now).map .consumed id

/-- The last call about the ticket has issued it, less than the TTL ago. -/
def Valid (ticket : String) (now : Nat) : List (TicketCall × TicketAnswer) → Prop :=
  Since (fun entry => entry.2 = .issued ticket ∧ now < entry.1.now + ticketTtl) fun entry =>
    entry.2 ≠ .issued ticket ∧ ∀ time, entry.1 ≠ .consume ticket time

def Usable (ticket : String) (now : Nat) : Prop :=
  ∃ exp, store.inner.lookup ticket = some exp ∧ now < exp

/-- What is pruned is expired, so that the log says what can be used. -/
def Tracks (recorded : Recorded SseTicketStore TicketCall TicketAnswer) : Prop :=
  ∀ ticket now, ticket ≠ "" → (∀ entry ∈ recorded.log, entry.1.now ≤ now) →
    (recorded.state.Usable ticket now ↔ Valid ticket now recorded.log)

variable {store} {recorded : Recorded SseTicketStore TicketCall TicketAnswer} {ticket own : String}
  {now time : Nat}

lemma usable_issue {bytes : Vector UInt8 16} (hle : time ≤ now) :
    (store.issue bytes time).2.Usable ticket now ↔
      if ticket = hexRendering false bytes.toList then now < time + ticketTtl
      else store.Usable ticket now := by
  simp only [Usable, issue, Query.lookup_insert, Query.lookup_retain]
  split
  · simp
  · simp only [Option.filter_eq_some_iff, decide_eq_true_eq, and_assoc]
    refine exists_congr fun exp => and_congr_right fun _ => ?_
    omega

lemma usable_consume (hne : ticket ≠ "") :
    (store.consume own time).2.Usable ticket now ↔ ticket ≠ own ∧ store.Usable ticket now := by
  unfold consume
  split
  · next hempty => simp [hempty, hne]
  · by_cases hown : ticket = own
    · simp [Usable, Query.lookup_erase, hown]
    · simp [Usable, hown]

lemma Tracks.step (htracks : Tracks recorded) (call : TicketCall) :
    Tracks (record answer recorded call) := by
  intro ticket now hne hclock
  obtain ⟨hnow, hearlier⟩ := List.forall_mem_cons.mp hclock
  have hbefore := htracks ticket now hne hearlier
  rw [record, Valid, since_cons_iff, ← Valid, ← hbefore]
  cases call with
  | issue bytes time =>
    refine (usable_issue hnow).trans ?_
    by_cases hown : ticket = hexRendering false bytes.toList
    · simp [answer, issue, hown, TicketCall.now]
    · simp [answer, issue, hown, Ne.symm hown]
  | consume own time =>
    refine (usable_consume hne).trans ?_
    simp [answer, eq_comm]

/-- A ticket is taken exactly if its issue, less than half a minute ago, is the last that
happened to it. -/
theorem consumes_valid {calls : List TicketCall} (hclock : Transition.EveryStep (record answer)
      (fun recorded call => ∀ entry ∈ recorded.log, entry.1.now ≤ call.now) (start ⟨∅⟩) calls) :
    Each (fun entry earlier => ∀ ticket now, entry.1 = .consume ticket now →
      (entry.2 = .consumed true ↔ ticket ≠ "" ∧ Valid ticket now earlier))
        (Transition.run (record answer) (start ⟨∅⟩) calls).log := by
  have hstart : Tracks (start ⟨∅⟩) := by
    intro ticket now _ _
    simp [start, Usable, Valid, Since]
  refine (each_of_everyStep (fun recorded call htracks hnow => ⟨htracks.step call, ?_⟩) hstart
    hclock).2
  rintro ticket now rfl
  by_cases hempty : ticket = ""
  · simp [answer, consume, hempty]
  · rw [and_iff_right hempty, ← htracks ticket now hempty hnow]
    simp [answer, consume, hempty, Usable, Option.any_eq_true]

lemma consumes_valid_once :
    let bytes := Vector.replicate 16 0
    let ticket := hexRendering false bytes.toList
    let log := (Transition.run (record answer) (start ⟨∅⟩)
      [.issue bytes 0, .consume ticket 1, .consume ticket 2]).log
    log.map Prod.snd = [.consumed false, .consumed true, .issued ticket] ∧
      Valid ticket 1 (log.drop 2) ∧ ¬ Valid ticket 2 (log.drop 1) := by
  intro bytes ticket log
  have hanswers : log.map Prod.snd = [.consumed false, .consumed true, .issued ticket] := by
    decide +kernel
  obtain ⟨hsecond, hfirst, -⟩ := @consumes_valid [.issue bytes 0, .consume ticket 1,
    .consume ticket 2] (by decide +kernel)
  exact ⟨hanswers, ((hfirst ticket 1 rfl).mp (by decide +kernel)).2, fun hvalid =>
    absurd ((hsecond ticket 2 rfl).mpr ⟨by decide +kernel, hvalid⟩) (by decide +kernel)⟩

end SseTicketStore

end IlinkHub
