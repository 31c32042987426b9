/-
The router (`hub/router.rs`): the commands and mentions in a text, the routes of
the users and what they decide about a message.
-/
import IlinkHub.Message
import IlinkHub.Query

namespace IlinkHub

open Text

/-- The commands of the user. -/
inductive HubCommand where
  | list
  | useClient (name : String)
  | broadcast (text : String)
  | status
  | help
  | sessionList
  | sessionNew (sessionName initialUuid : String)
  | sessionUse (sessionName : String)
  | sessionDelete (sessionName : String)
deriving Repr, DecidableEq

/-- The rest of a text behind the first of the prefixes that it starts with. -/
def stripAny (pats : List String) (text : String) : Option String :=
  pats.findSome? fun pat => stripPrefix pat text

/-- The name and the id of `/session new`, which both may be missing.
`freshName` is the name with the time in it. -/
def parseSessionNew (freshName rest : String) : HubCommand :=
  let parts := cutAt (· == ' ') (trim rest)
  let name := trim parts.1
  .sessionNew (if name = "" then freshName else name) (trim parts.2)

/-- A command, if the text is one. -/
def parseHubCommand (freshName text : String) : Option HubCommand :=
  let text := trim text
  let equals := fun forms : List String =>
    forms.any fun form => eqIgnoreAsciiCase text form
  if equals ["/list", "/ls"] then some .list
  else if equals ["/status", "/s"] then some .status
  else if equals ["/help", "/?", "/h"] then some .help
  else
    match stripAny ["/use ", "/u ", "/switch "] text with
    | some rest => some (.useClient (trim rest))
    | none =>
    match stripAny ["/broadcast ", "/all "] text with
    | some rest => some (.broadcast (trim rest))
    | none =>
    if equals ["/session list", "/session ls", "/sl"] then some .sessionList
    else
    match (stripAny ["/session new ", "/sn "] text).or
        (if equals ["/session new", "/sn"] then some "" else none) with
    | some rest => some (parseSessionNew freshName rest)
    | none =>
    -- An empty name falls through to the next command.
    match ((stripAny ["/session use ", "/su "] text).map trim).filter fun name => name ≠ "" with
    | some name => some (.sessionUse name)
    | none =>
    match ((stripAny ["/session delete ", "/session rm ", "/session del ",
        "/sd "] text).map trim).filter fun name => name ≠ "" with
    | some name => some (.sessionDelete name)
    | none => none

/-- `@name message`.  A name that starts in ASCII ends at the first character
outside of it, any name at the first white space. -/
def parseAtMention (text : String) : Option (String × String) :=
  (stripPrefix "@" (trimStart text)).bind fun rest =>
    let startsWithAscii := rest.toList.head?.any fun c => c.toNat < 128
    let parts :=
      if startsWithAscii then
        cutAt (fun c => isWhitespace c || 128 ≤ c.toNat) rest
      else cutAt isWhitespace rest
    let name := trim parts.1
    if name = "" then none else some (name, trim parts.2)

example : parseAtMention "@bot  do it" = some ("bot", "do it") ∧
    parseAtMention "@bot你好" = some ("bot", "你好") ∧
    parseHubCommand "s" " /U b " = none ∧
    parseHubCommand "s" "/sn  a  b" = some (.sessionNew "a" "b") := by decide

inductive RoutingDecision where
  | forwardTo (vtoken : String) (sessionOverride : Option String)
  | broadcast
  | hubInternal (cmd : HubCommand)
deriving Repr, DecidableEq

structure Router where
  activeRoutes : AList fun _ : String => String
  defaultClient : Option String

namespace Router

def new (defaultClient : Option String) : Router :=
  ⟨∅, defaultClient⟩

variable (router : Router)

def setDefault (vtoken : String) : Router :=
  { router with defaultClient := some vtoken }

def setRoute (fromUserId vtoken : String) : Router :=
  { router with activeRoutes := router.activeRoutes.insert fromUserId vtoken }

/-- Drop what points to a removed backend; another default takes its place. -/
def removeRoutesForVtoken (vtoken : String) (newDefault : Option String) : Router where
  activeRoutes := Query.retain (fun _ own => own ≠ vtoken) router.activeRoutes
  defaultClient :=
    if router.defaultClient = some vtoken then newDefault
    else router.defaultClient

def getRoute (fromUserId : String) : Option String :=
  (router.activeRoutes.lookup fromUserId).or router.defaultClient

/-- A command is for the Hub; other messages follow the route of the user, and
without one the user is told to choose. -/
def route (freshName : String) (msg : WeixinMessage) : RoutingDecision :=
  match msg.text.bind (parseHubCommand freshName) with
  | some cmd => .hubInternal cmd
  | none =>
    match router.getRoute (msg.fromUserId.getD "") with
    | some vtoken => .forwardTo vtoken none
    | none => .hubInternal .help

/-- Some user or the default is routed to the backend. -/
def Mentions (vtoken : String) : Prop :=
  router.defaultClient = some vtoken ∨
    ∃ fromUserId, router.activeRoutes.lookup fromUserId = some vtoken

variable {router} {vtoken other fromUserId : String}

lemma mentions_of_getRoute (hroute : router.getRoute fromUserId = some vtoken) :
    router.Mentions vtoken := by
  rcases Option.or_eq_some_iff.mp hroute with huser | ⟨-, hdefault⟩
  · exact .inr ⟨fromUserId, huser⟩
  · exact .inl hdefault

lemma mentions_of_setDefault (hmentions : (router.setDefault other).Mentions vtoken) :
    vtoken = other ∨ router.Mentions vtoken := by
  rcases hmentions with hdefault | huser
  · exact .inl (Option.some.inj hdefault).symm
  · exact .inr (.inr huser)

lemma mentions_of_setRoute (hmentions : (router.setRoute fromUserId other).Mentions vtoken) :
    vtoken = other ∨ router.Mentions vtoken := by
  rcases hmentions with hdefault | ⟨user, huser⟩
  · exact .inr (.inl hdefault)
  · by_cases hsame : user = fromUserId
    · subst hsame
      rw [setRoute, AList.lookup_insert] at huser
      exact .inl (Option.some.inj huser).symm
    · rw [setRoute, AList.lookup_insert_ne hsame] at huser
      exact .inr (.inr ⟨user, huser⟩)

/-- What is left after a removal was there, and is not the removed backend, or it
is the new default. -/
lemma mentions_of_removeRoutes {newDefault : Option String}
    (hmentions : (router.removeRoutesForVtoken other newDefault).Mentions vtoken) :
    newDefault = some vtoken ∨ vtoken ≠ other ∧ router.Mentions vtoken := by
  rcases hmentions with hdefault | ⟨user, huser⟩
  · simp only [removeRoutesForVtoken] at hdefault
    split at hdefault
    · exact .inl hdefault
    · next hother =>
      refine .inr ⟨?_, .inl hdefault⟩
      rintro rfl
      exact hother hdefault
  · rw [removeRoutesForVtoken, Query.lookup_retain, Option.filter_eq_some_iff] at huser
    exact .inr ⟨of_decide_eq_true huser.2, .inr ⟨user, huser.1⟩⟩

end Router

end IlinkHub
