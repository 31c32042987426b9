/-
A registration under a name that is taken (`POST /hub/register`).  The route
learns about the conflict from the outcome of the registration, which has then
updated the client of the name.
-/
import IlinkHub.ClientHub

namespace IlinkHub

open Sample

namespace ClientHub

variable {hub : ClientHub} {ok : Nat → Bool} {req : RegisterRequest} {draw : VtokenDraw}
  {hdrawn : hub.registry.byVtoken.lookup draw.hashed = none}

/-- The checks of the route answer with another status. -/
lemma status_of_rejected {response : RegisterResponse}
    (hrejected : req.rejected = some response) : response.status = 400 := by
  simp only [RegisterRequest.rejected] at hrejected
  repeat' split at hrejected
  · cases hrejected
    rfl
  · cases hrejected
    rfl
  · cases hrejected

/-- A conflict is one with a client that is registered. -/
lemma register_of_conflict (hconflict : (hub.register ok req draw hdrawn).1.status = 409) :
    ∃ info, hub.registry.getByName req.name = some info ∧ (hub.register ok req draw hdrawn).2 =
        (hub.registerClientInHub ok req.name req.label req.description draw hdrawn).2 := by
  cases hrejected : req.rejected with
  | some response =>
    simp only [register, hrejected] at hconflict
    simp [status_of_rejected hrejected] at hconflict
  | none =>
    cases hname : hub.registry.getByName req.name with
    | none =>
      obtain ⟨next, hnext, -⟩ := registerClientInHub_new ok req.label req.description hname hdrawn
      simp only [register, hrejected, hnext] at hconflict
      cases hconflict
    | some info =>
      obtain ⟨next, hnext, -⟩ := registerClientInHub_known ok req.label req.description hname hdrawn
      refine ⟨info, rfl, ?_⟩
      simp only [register, hrejected, hnext]
      rfl

end ClientHub

def Sample.oneClient : ClientHub :=
  (ClientHub.new.register (fun _ => true) { name := "bot" } ⟨"1", "h1"⟩ rfl).2

def Sample.sameName : RegisterRequest :=
  { name := "bot", label := some "mine" }

lemma Sample.oneClient_drawn :
    oneClient.registry.byVtoken.lookup (VtokenDraw.mk "2" "h2").hashed = none := by
  decide +kernel

namespace ClientHub

/-- A rejected registration leaves the router alone.  It updates the client of
the name with what the request gives and marks it online, and of the table it
writes at most the row of the name. -/
theorem conflict_updates_client (hub : ClientHub) (ok : Nat → Bool)
    (req : RegisterRequest) (draw : VtokenDraw)
    (hdrawn : hub.registry.byVtoken.lookup draw.hashed = none)
    (hconflict : (hub.register ok req draw hdrawn).1.status = 409) :
    ∃ info, hub.registry.getByName req.name = some info ∧
      (∀ name, (hub.register ok req draw hdrawn).2.registry.getByName name =
        if name = req.name then
          some { info with
            label := req.label.or info.label
            description := req.description.or info.description
            online := true }
        else hub.registry.getByName name) ∧
      (hub.register ok req draw hdrawn).2.router = hub.router ∧
      ∀ name,
        (hub.register ok req draw hdrawn).2.tables.clients.lookup name =
            hub.tables.clients.lookup name ∨
          name = req.name ∧ (hub.register ok req draw hdrawn).2.tables.clients.lookup name =
              some (hub.tables.upserted info.vtoken req.name req.label) := by
  obtain ⟨info, hinfo, hafter⟩ := register_of_conflict hconflict
  obtain ⟨next, hnext, hfind⟩ :=
    registerClientInHub_known ok req.label req.description hinfo hdrawn
  rw [hafter, hnext]
  refine ⟨info, hinfo, ?_, rfl, ?_⟩
  · intro name
    rw [persist, hfind, Function.update_apply]
    rfl
  · intro name
    simp only [persist]
    split
    · cases hupsert : hub.tables.upsertClient info.vtoken req.name req.label with
      | none => exact .inl rfl
      | some after =>
        obtain ⟨-, rfl⟩ := ClientTables.upsertClient_eq_some_iff.mp hupsert
        rw [Option.getD_some, Query.lookup_insert]
        by_cases hname : name = req.name
        · rw [if_pos hname]
          exact .inr ⟨hname, rfl⟩
        · rw [if_neg hname]
          exact .inl rfl
    · exact .inl rfl

theorem conflict_updates_client_bot :
    (oneClient.register (fun _ => true) sameName ⟨"2", "h2"⟩ oneClient_drawn).1.status = 409 ∧
      (oneClient.register (fun _ => true) sameName ⟨"2", "h2"⟩
        oneClient_drawn).2.router = oneClient.router := by
  have hconflict : (oneClient.register (fun _ => true) sameName
      ⟨"2", "h2"⟩ oneClient_drawn).1.status = 409 := by decide +kernel
  obtain ⟨info, -, -, hrouter, -⟩ := conflict_updates_client oneClient
    (fun _ => true) sameName ⟨"2", "h2"⟩ oneClient_drawn hconflict
  exact ⟨hconflict, hrouter⟩

/-- The label of the rejected request is the label of the client, in the registry
and in the table, and the client counts as online. -/
theorem conflict_has_effect :
    (oneClient.register (fun _ => true) sameName ⟨"2", "h2"⟩ oneClient_drawn).1.status = 409 ∧
      oneClient.registry.getByName "bot" = some { name := "bot", vtoken := "h1" } ∧
      (oneClient.register (fun _ => true) sameName ⟨"2", "h2"⟩
        oneClient_drawn).2.registry.getByName "bot" =
        some { name := "bot", vtoken := "h1", label := some "mine"
               online := true } ∧
      oneClient.tables.clients.lookup "bot" = some { vtoken := "h1" } ∧
      (oneClient.register (fun _ => true) sameName ⟨"2", "h2"⟩
        oneClient_drawn).2.tables.clients.lookup "bot" =
        some { vtoken := "h1", label := some "mine" } := by
  decide +kernel

end ClientHub

end IlinkHub
