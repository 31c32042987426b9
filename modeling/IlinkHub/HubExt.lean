/-
The virtual context of an inbound message and the extension block that goes
with it to a backend (`hub/dispatch/hub_ext.rs`).
-/
import IlinkHub.Message
import IlinkHub.Store

namespace IlinkHub

/-- The context of a message.  When the store refuses, the message goes out
under the ephemeral name, which the store does not know. -/
def resolveVctxForMessage (store : Store) (realCtx peerUserId : String)
    (groupId : Option String) (candidate ephemeral : String) : String × Store :=
  (store.findOrCreateVctx peerUserId groupId realCtx candidate).getD (ephemeral, store)

/-- A blank id counts as none; others are trimmed. -/
def trimmedNonBlank (id : String) : Option String :=
  if Text.isBlank id then none else some (Text.trim id)

/-- What is left of an id can be trimmed once more without a change. -/
theorem trimmedNonBlank_of_eq_some {raw id : String} (hid : trimmedNonBlank raw = some id) :
    trimmedNonBlank id = some id ∧ id ≠ "" := by
  unfold trimmedNonBlank at hid
  split at hid
  · cases hid
  · next hblank =>
    cases hid
    have hne : Text.trim raw ≠ "" := by
      intro hempty
      exact hblank (beq_iff_eq.mpr hempty)
    refine ⟨?_, hne⟩
    rw [trimmedNonBlank, Text.isBlank, Text.trim_trim]
    simpa using hne

/-- `readOk` tells whether the store answers in time. -/
def buildHubExtForVctx (store : Store) (pair : PairKey)
    (sessionOverride : Option String) (readOk : Bool) : Option HubExt :=
  match sessionOverride.filter fun name => name ≠ "" with
  | some name =>
    let sessionId :=
      if readOk then
        (store.getBackendSession pair name).bind trimmedNonBlank
      else none
    some { sessionId := sessionId, sessionName := some name }
  | none =>
    let found :=
      if readOk then store.getHubExtSingle pair else ("default", none)
    some { sessionId := found.2, sessionName := some found.1 }

end IlinkHub
