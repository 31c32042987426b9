/-
How a reply of a backend leaves the Hub: the fields that every outbound message
has (`ilink/types.rs`), the persona header and the origin footer
(`hub/outbound_label.rs`).
-/
import IlinkHub.HubExt
import IlinkHub.Registry

namespace IlinkHub

/-- Some item is neither text nor of no type. -/
def WeixinMessage.hasMediaContent (msg : WeixinMessage) : Bool :=
  (msg.itemList.getD []).any fun item =>
    decide (item.itemType ≠ some 1) && item.itemType.isSome

/-- The client id and the message id are drawn when the message has none. -/
def WeixinMessage.ensureOutbound (msg : WeixinMessage) (newClientId : String)
    (newOutboundMsgId : Int) : WeixinMessage :=
  { msg with
    fromUserId := some ""
    messageType := msg.messageType.or (some 2)
    messageState := msg.messageState.or (some 2)
    clientId := (msg.clientId.filter fun id => id ≠ "").or (some newClientId)
    messageId := msg.messageId.or (some newOutboundMsgId) }

/-- The footer depends on the configured switch, else on whether several
clients are online. -/
def shouldAppendOutboundOriginLabel (onlineClientCount : Nat) (envVal : Option String) : Bool :=
  match (envVal.bind trimmedNonBlank).map Text.toAsciiLowercase with
  | some "0" | some "false" | some "no" | some "off" => false
  | some "1" | some "true" | some "yes" | some "on" => true
  | _ => decide (1 < onlineClientCount)

def formatOutboundOriginLine (name : String) (label : Option String) : String :=
  match (label.bind trimmedNonBlank).filter fun l => l ≠ name with
  | some l => name ++ " · " ++ l
  | none => name

def buildSessionOnlyFooter (sessionName : Option String) : Option String :=
  (sessionName.bind trimmedNonBlank).filter fun name => name ≠ "default"

def formatOutboundFooter (name : String) (label sessionName : Option String) : String :=
  let workspace := formatOutboundOriginLine name label
  match buildSessionOnlyFooter sessionName with
  | some session => workspace ++ " · " ++ session
  | none => workspace

def buildPersonaHeader (personaName personaEmoji : Option String) : Option String :=
  (personaName.bind trimmedNonBlank).map fun name =>
    match personaEmoji.bind trimmedNonBlank with
    | some emoji => emoji ++ " **" ++ name ++ "**" ++ "\n\n"
    | none => "**" ++ name ++ "**" ++ "\n\n"

/-- A persona gets its header and a footer with the session alone, any other
client the whole origin line. -/
def personaAndFooter (client : ClientInfo) (sessionName : Option String) (text : String) : String :=
  match buildPersonaHeader client.personaName client.personaEmoji with
  | some header =>
    match buildSessionOnlyFooter sessionName with
    | some session => header ++ text ++ "\n\n---\n" ++ session
    | none => header ++ text
  | none =>
    text ++ "\n\n---\n" ++
      formatOutboundFooter client.name client.label sessionName

/-- Only the first item is looked at: when it has no text, nothing changes. -/
def applyPersonaAndFooterToFirstTextItem (msg : WeixinMessage)
    (client : ClientInfo) (sessionName : Option String) : WeixinMessage :=
  match msg.itemList with
  | some (first :: rest) =>
    match first.textItem.bind TextItem.text with
    | some text =>
      let text := personaAndFooter client sessionName text
      { msg with
        itemList := some ({ first with textItem := some ⟨some text⟩ } :: rest) }
    | none => msg
  | _ => msg

/-- Header and footer stand around the text. -/
theorem personaAndFooter_eq (client : ClientInfo) (sessionName : Option String) (text : String) :
    ∃ header footer, personaAndFooter client sessionName text = header ++ text ++ footer := by
  unfold personaAndFooter
  split
  · next header _ =>
    split
    · next session _ =>
      exact ⟨header, "\n\n---\n" ++ session, String.append_assoc⟩
    · exact ⟨header, "", String.append_empty.symm⟩
  · refine ⟨"", "\n\n---\n" ++
      formatOutboundFooter client.name client.label sessionName, ?_⟩
    rw [String.empty_append, String.append_assoc]

/-- The displayed text of a message stays in it. -/
theorem text_applyPersonaAndFooter {msg : WeixinMessage} {text : String}
    (htext : msg.text = some text) (client : ClientInfo) (sessionName : Option String) :
    ∃ header footer,
      (applyPersonaAndFooterToFirstTextItem msg client sessionName).text =
        some (header ++ text ++ footer) := by
  have hsame : ∃ header footer, msg.text = some (header ++ text ++ footer) :=
    ⟨"", "", by rw [htext, String.empty_append, String.append_empty]⟩
  unfold applyPersonaAndFooterToFirstTextItem
  split
  · next first rest hitems =>
    split
    · next own hfirst =>
      -- The first item with a text is the first item.
      have hown : own = text := by
        simpa [WeixinMessage.text, hitems, hfirst] using htext
      subst hown
      obtain ⟨header, footer, heq⟩ :=
        personaAndFooter_eq client sessionName own
      refine ⟨header, footer, ?_⟩
      simp [WeixinMessage.text, heq]
    · exact hsame
  · exact hsame

end IlinkHub
