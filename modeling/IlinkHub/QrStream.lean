/-
The stream of login events for the admin page: the bridge of a renewal caches each
event and then broadcasts it (`ilink/upstream.rs`), and the handler of a new client
reads the cache and then subscribes (`server/routes/admin.rs`).
-/
import IlinkHub.Transition

namespace IlinkHub

open Transition

inductive QrLoginUiEvent where
  | ready (image link : String)
  | status (message : String)
  | done
  | expired
deriving Repr, DecidableEq

namespace QrLoginUiEvent

def isReady : QrLoginUiEvent → Bool
  | .ready _ _ => true
  | .status _ | .done | .expired => false

/-- A `Ready`, `Done` or `Expired` event. -/
def isMark : QrLoginUiEvent → Bool
  | .ready _ _ | .done | .expired => true
  | .status _ => false

/-- What the bridge does to `qr_last_ready`. -/
def cacheIn (cache : Option QrLoginUiEvent) : QrLoginUiEvent → Option QrLoginUiEvent
  | .ready image link => some (.ready image link)
  | .done | .expired => none
  | .status _ => cache

end QrLoginUiEvent

open QrLoginUiEvent

/-- The handler, once the client is let in.  With what it took from the cache goes what
had been cached until then, and with the subscription what had been broadcast. -/
inductive QrClient where
  | connecting
  | read (cached : Option QrLoginUiEvent) (noted : List QrLoginUiEvent)
  | streaming (cached : Option QrLoginUiEvent) (noted before received : List QrLoginUiEvent)
deriving Repr, DecidableEq

structure QrRace where
  events : List QrLoginUiEvent
  inFlight : Option QrLoginUiEvent := none
  cache : Option QrLoginUiEvent := none
  sent : List QrLoginUiEvent := []
  client : QrClient := .connecting
deriving Repr, DecidableEq

inductive QrStep where
  | cache
  | broadcast
  | read
  | subscribe
deriving Repr, DecidableEq

/-- A step that is not due changes nothing. -/
def QrRace.step (race : QrRace) : QrStep → QrRace
  | .cache =>
    match race.inFlight, race.events with
    | none, event :: events =>
      { race with events, inFlight := some event, cache := cacheIn race.cache event }
    | _, _ => race
  | .broadcast =>
    match race.inFlight with
    | none => race
    | some event =>
      { race with
        inFlight := none
        sent := race.sent ++ [event]
        client := match race.client with
          | .streaming cached noted before received =>
            .streaming cached noted before (received ++ [event])
          | client => client }
  | .read =>
    match race.client with
    | .connecting => { race with client := .read race.cache (race.sent ++ race.inFlight.toList) }
    | _ => race
  | .subscribe =>
    match race.client with
    | .read cached noted => { race with client := .streaming cached noted race.sent [] }
    | _ => race

def lastMark (log : List QrLoginUiEvent) : Option QrLoginUiEvent :=
  (log.filter isMark).getLast?

/-- What the cache has after a log of events. -/
def cachedAfter (log : List QrLoginUiEvent) : Option QrLoginUiEvent :=
  (lastMark log).filter isReady

lemma cachedAfter_append (log : List QrLoginUiEvent) (event : QrLoginUiEvent) :
    cachedAfter (log ++ [event]) = cacheIn (cachedAfter log) event := by
  cases event <;> simp [cachedAfter, lastMark, isMark, isReady, cacheIn]

namespace QrRace

/-- What holds of the client after every step. -/
def ClientOk (race : QrRace) : Prop :=
  match race.client with
  | .connecting => True
  | .read cached noted => cached = cachedAfter noted
  | .streaming cached noted before received =>
    cached = cachedAfter noted ∧ before ++ received = race.sent

structure Consistent (race : QrRace) : Prop where
  cache : race.cache = cachedAfter (race.sent ++ race.inFlight.toList)
  client : race.ClientOk

lemma Consistent.step {race : QrRace} (hcons : race.Consistent) (step : QrStep) :
    (race.step step).Consistent := by
  obtain ⟨hcache, hclient⟩ := hcons
  cases step with
  | cache =>
    unfold QrRace.step
    dsimp only
    split
    · next event events hidle _ =>
      rw [hidle, Option.toList_none, List.append_nil] at hcache
      refine ⟨?_, hclient⟩
      rw [Option.toList_some, cachedAfter_append, hcache]
    · exact ⟨hcache, hclient⟩
  | broadcast =>
    unfold QrRace.step
    dsimp only
    split
    · exact ⟨hcache, hclient⟩
    · next event hflight =>
      rw [hflight] at hcache
      refine ⟨by simpa using hcache, ?_⟩
      unfold ClientOk at hclient ⊢
      cases hphase : race.client with
      | connecting => trivial
      | read cached noted => simpa only [hphase] using hclient
      | streaming cached noted before received =>
        rw [hphase] at hclient
        obtain ⟨hcached, hsent⟩ := hclient
        exact ⟨hcached, by rw [← List.append_assoc, hsent]⟩
  | read =>
    unfold QrRace.step
    dsimp only
    split
    · exact ⟨hcache, hcache⟩
    · exact ⟨hcache, hclient⟩
  | subscribe =>
    unfold QrRace.step
    dsimp only
    split
    · next cached noted hphase =>
      rw [ClientOk, hphase] at hclient
      exact ⟨hcache, hclient, List.append_nil _⟩
    · exact ⟨hcache, hclient⟩

lemma consistent_run (events : List QrLoginUiEvent) (steps : List QrStep) :
    (run step { events } steps).Consistent :=
  @run_invariant _ _ step Consistent { events } (fun _ step hcons => hcons.step step)
    ⟨rfl, trivial⟩ steps

end QrRace

/-- Of the events that were broadcast before its subscription, a client gets the last
`Ready` exactly when the cache had it as the client read it (or it comes once more), so
in particular when no mark passed between the two; it always gets those that are
broadcast afterwards. -/
theorem qrStream_complete_iff (events : List QrLoginUiEvent) (steps : List QrStep)
    {cached : Option QrLoginUiEvent} {noted before received : List QrLoginUiEvent}
    (hclient : (run QrRace.step { events } steps).client =
      .streaming cached noted before received) :
    before ++ received = (run QrRace.step { events } steps).sent ∧
      ∀ event, lastMark before = some event → event.isReady = true →
        (event ∈ cached.toList ++ received ↔ lastMark noted = some event ∨ event ∈ received) ∧
        ∀ passed, before = noted ++ passed → lastMark passed = none → event ∈ cached.toList := by
  have hok := (QrRace.consistent_run events steps).client
  rw [QrRace.ClientOk, hclient] at hok
  obtain ⟨rfl, hsent⟩ := hok
  refine ⟨hsent, fun event hlast hready => ?_⟩
  have hcached : event ∈ (cachedAfter noted).toList ↔ lastMark noted = some event := by
    rw [Option.mem_toList, cachedAfter, Option.filter_eq_some_iff, and_iff_left hready]
  refine ⟨by rw [List.mem_append, hcached], fun passed hpassed hnone => hcached.mpr ?_⟩
  rw [lastMark, List.getLast?_eq_none_iff] at hnone
  rw [hpassed, lastMark, List.filter_append, hnone, List.append_nil] at hlast
  exact hlast

theorem qrStream_complete_late :
    (run QrRace.step { events := [.ready "png" "link", .status "scanned"] }
      [.cache, .broadcast, .read, .cache, .broadcast, .subscribe]).client =
        .streaming (some (.ready "png" "link")) [.ready "png" "link"]
          [.ready "png" "link", .status "scanned"] [] ∧
    .ready "png" "link" ∈ (some (QrLoginUiEvent.ready "png" "link")).toList := by
  have hclient : (run QrRace.step { events := [.ready "png" "link", .status "scanned"] }
      [.cache, .broadcast, .read, .cache, .broadcast, .subscribe]).client =
        .streaming (some (.ready "png" "link")) [.ready "png" "link"]
          [.ready "png" "link", .status "scanned"] [] := by decide
  exact ⟨hclient, ((qrStream_complete_iff _ _ hclient).2 (.ready "png" "link") (by decide) rfl).2
    [.status "scanned"] rfl rfl⟩

/-- The event passes between the look into the cache and the subscription. -/
theorem qrStream_misses_ready :
    (run QrRace.step { events := [.ready "png" "link"] }
      [.read, .cache, .broadcast, .subscribe]).client =
        .streaming none [] [.ready "png" "link"] [] := by
  decide

end IlinkHub
