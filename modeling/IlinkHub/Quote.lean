/-
Quote-replies (`hub/quote_route.rs`, `hub/dispatch/quote.rs`): what a message
quotes, the rows of the message history that the quote is looked up in
(`store/messages.rs`), the footer of a quoted reply, and how the origin of the
quote overrides the route.
-/
import IlinkHub.Registry
import IlinkHub.Router
import IlinkHub.Store

namespace IlinkHub

open Text Query

/-- The `ref_msg.message_item` of an item, as far as it is read. -/
structure RefMessageItem where
  createTimeMs : Option Int := none
  msgId : Option String := none
  text : Option String := none
deriving Repr, DecidableEq

/-- The quoted items of a message, in order. -/
def collectQuotedTimestamp (refs : List RefMessageItem) : Option Int :=
  refs.findSome? RefMessageItem.createTimeMs

def collectQuotedMsgId (refs : List RefMessageItem) : Option String :=
  refs.findSome? fun item => item.msgId.filter fun id => !isBlank id

def collectQuoted (refs : List RefMessageItem) : Option (String × Option Int) :=
  refs.findSome? fun item =>
    (item.text.filter fun text => !isBlank text).map fun text =>
      (text, item.createTimeMs)

/-- The last line of a reply, behind the rule or, in old replies, the dash. -/
def footerLine (text : String) : Option String :=
  ((afterLast "\n---\n" text).or
    ((afterLast "\n— " text).or (stripPrefix "— " (trim text)))).map trim

def looksLikeSession (part : String) : Bool :=
  startsWith "at-" part || startsWith "session-" part

/-- The name and the session in the footer of a quoted reply. -/
def parseFooterFromQuotedText (text : String) : Option (String × Option String) :=
  ((footerLine text).filter fun line => line ≠ "").bind fun line =>
    let parts := (splitOn " · " line).map trim
    let name := parts.head?.getD ""
    if name = "" then none
    else some (name, parts.reverse.find? looksLikeSession)

example : parseFooterFromQuotedText "done\n\n---\nbot · lab · at-1" =
      some ("bot", some "at-1") ∧
    parseFooterFromQuotedText "done\n\n— bot" = some ("bot", none) ∧
    parseFooterFromQuotedText "done" = none := by decide

def footerFromUserQuote (refs : List RefMessageItem) : Option (String × Option String) :=
  (collectQuoted refs).bind fun quoted => parseFooterFromQuotedText quoted.1

/-- The conversation of a message. -/
def derivePeerScope (msg : WeixinMessage) : Option String :=
  let groupId := msg.groupId.getD ""
  let fromUserId := msg.fromUserId.getD ""
  if groupId ≠ "" then some ("group:" ++ groupId)
  else if fromUserId ≠ "" then some ("peer:" ++ fromUserId)
  else none

/-- A row of `messages` with the role of the assistant; no lookup reads the
others. -/
structure MessageRow where
  vctx : String
  vtoken : Option String
  sessionName : String
  peerUserId : String
  content : String
  ilinkMsgId : Option Int
  createdAt : Int := 0
deriving Repr, DecidableEq

/-- The database below the store; MySQL is not supported when the Hub runs. -/
inductive DatabaseKind where
  | sqlite
  | postgres
deriving Repr, DecidableEq

/-- `LIKE` with an escaped text and a wildcard at its end. -/
def DatabaseKind.likeStartsWith (kind : DatabaseKind) (contentPrefix content : String) : Bool :=
  match kind with
  | .sqlite => startsWith (toAsciiLowercase contentPrefix)
      (toAsciiLowercase content)
  | .postgres => startsWith contentPrefix content

/-- The backend and the session of a row. -/
def MessageRow.origin (row : MessageRow) : String × String :=
  (row.vtoken.getD "", row.sessionName)

section Lookups

variable (messages : List MessageRow) (peerUserId : String) (tie : Nat)

def findAssistantMessageByMsgId (ilinkMsgId : Int) : Option (String × String) :=
  (limitOne (fun _ _ => true) tie (messages.filter fun row =>
    row.peerUserId = peerUserId ∧ row.ilinkMsgId = some ilinkMsgId)).map MessageRow.origin

/-- The row that is closest in time. -/
def findAssistantMessageByTimestamp (refUnixSecs windowSecs : Int) : Option (String × String) :=
  (limitOne
    (fun row other => decide ((row.createdAt - refUnixSecs).natAbs ≤
      (other.createdAt - refUnixSecs).natAbs)) tie
    (messages.filter fun row => row.peerUserId = peerUserId ∧
      refUnixSecs - windowSecs ≤ row.createdAt ∧
      row.createdAt ≤ refUnixSecs + windowSecs)).map MessageRow.origin

/-- The newest row with this beginning. -/
def findAssistantMessageByContent (kind : DatabaseKind)
    (contentPrefix : String) : Option (String × String) :=
  (limitOne (fun row other => decide (other.createdAt ≤ row.createdAt))
    tie (messages.filter fun row => row.peerUserId = peerUserId ∧
      kind.likeStartsWith contentPrefix row.content = true)).map MessageRow.origin

variable {messages peerUserId tie}

/-- The backend that a lookup finds stands in a row, or the row has none. -/
lemma vtoken_of_origin {le : MessageRow → MessageRow → Bool}
    {p : MessageRow → Bool} {found : String × String}
    (hfound : (limitOne le tie (messages.filter p)).map MessageRow.origin = some found) :
    found.1 = "" ∨ ∃ row ∈ messages, row.vtoken = some found.1 := by
  obtain ⟨row, hrow, rfl⟩ := Option.map_eq_some_iff.mp hfound
  have hmem := (List.mem_filter.mp (of_limitOne hrow).1).1
  cases hvtoken : row.vtoken with
  | none => exact .inl (by rw [MessageRow.origin, hvtoken]; rfl)
  | some vtoken =>
    refine .inr ⟨row, hmem, ?_⟩
    rw [MessageRow.origin, hvtoken]
    rfl

end Lookups

/-- The backend of a named session of a context.  Several backends may have one
of this name; the order of their rows differs with the database. -/
def Store.findVtokenForSession (store : Store) (vctx sessionName : String)
    (tie : Nat) : Option String :=
  (limitOne (fun _ _ => true) tie (store.backend.keys.filter fun key =>
    key.pair.vctx = vctx ∧ key.sessionName = sessionName)).map fun key => key.pair.vtoken

lemma Store.of_findVtokenForSession {store : Store} {vctx sessionName vtoken : String} {tie : Nat}
    (hfound : store.findVtokenForSession vctx sessionName tie = some vtoken) :
    (store.backend.lookup ⟨⟨vctx, vtoken⟩, sessionName⟩).isSome = true := by
  obtain ⟨key, hkey, rfl⟩ := Option.map_eq_some_iff.mp hfound
  obtain ⟨hmem, hwhere⟩ := List.mem_filter.mp (of_limitOne hkey).1
  obtain ⟨rfl, rfl⟩ := of_decide_eq_true hwhere
  exact AList.lookup_isSome.mpr hmem

/-- Who wrote the quoted message. -/
inductive QuoteOrigin where
  | client (vtoken name : String) (label sessionName : Option String)
  | hub (cmd : HubCommand)
deriving Repr, DecidableEq

/-- The origin with the name of the backend; one that is not registered goes
under its token. -/
def QuoteOrigin.ofVtoken (registry : ClientRegistry) (vtoken : String)
    (sessionName : Option String) : QuoteOrigin :=
  match registry.getByVtoken vtoken with
  | some info => .client vtoken info.name info.label sessionName
  | none => .client vtoken vtoken none sessionName

/-- A quote overrides the route, but no command. -/
def mergeRoutingWithQuote (base : RoutingDecision)
    (quoted : Option QuoteOrigin) : RoutingDecision :=
  match base, quoted with
  | .hubInternal cmd, _ => .hubInternal cmd
  | _, some (.client vtoken _ _ sessionName) => .forwardTo vtoken sessionName
  | _, some (.hub cmd) => .hubInternal cmd
  | base, none => base

end IlinkHub
