/-
The message type shared by the upstream wire protocol, the queues and the
downstream API (`ilink/types.rs`), and the getupdates request and response.
-/
import IlinkHub.Text

namespace IlinkHub

structure TextItem where
  text : Option String := none
deriving Repr, DecidableEq, Inhabited

/-- A voice item carries the transcript of its recording. -/
structure VoiceItem where
  text : Option String := none
deriving Repr, DecidableEq, Inhabited

structure MessageItem where
  itemType : Option Int := none
  textItem : Option TextItem := none
  voiceItem : Option VoiceItem := none
deriving Repr, DecidableEq, Inhabited

/-- The Hub's own metadata on a message.  `sessionId`, `sessionName`,
`a2aCallId` and `a2aDepth` travel to the backend; the backend answers with
`cliSessionId`, `usage` (its rendered JSON) and the echoed names. -/
structure HubExt where
  sessionId : Option String := none
  sessionName : Option String := none
  cliSessionId : Option String := none
  a2aCallId : Option String := none
  a2aDepth : Option UInt8 := none
  usage : Option String := none
deriving Repr, DecidableEq, Inhabited

structure WeixinMessage where
  seq : Option Int := none
  messageId : Option Int := none
  fromUserId : Option String := none
  toUserId : Option String := none
  clientId : Option String := none
  createTimeMs : Option Int := none
  updateTimeMs : Option Int := none
  sessionId : Option String := none
  groupId : Option String := none
  messageType : Option Int := none
  messageState : Option Int := none
  itemList : Option (List MessageItem) := none
  contextToken : Option String := none
  ilinkHubExt : Option HubExt := none
deriving Repr, DecidableEq, Inhabited

/-- Displayable text: the first text item that has one, else the first voice
transcript. -/
def WeixinMessage.text (msg : WeixinMessage) : Option String :=
  msg.itemList.bind fun items =>
    (items.findSome? fun item => item.textItem.bind TextItem.text).or
      (items.findSome? fun item => item.voiceItem.bind VoiceItem.text)

/-- Replace the text of the first item that has a text part; a message without
one is left unchanged. -/
def setFirstTextItem (msg : WeixinMessage) (text : String) : WeixinMessage :=
  { msg with itemList := msg.itemList.map replaceFirst }
where
  replaceFirst : List MessageItem → List MessageItem
    | [] => []
    | item :: rest =>
      if item.textItem.isSome then
        { item with textItem := some ⟨some text⟩ } :: rest
      else
        item :: replaceFirst rest

/-- Body of `POST /ilink/bot/getupdates`. -/
structure GetUpdatesRequest where
  getUpdatesBuf : String := ""
  lastAckId : Option Int := none
  timeout : Option Nat := none
deriving Repr, DecidableEq, Inhabited

/-- `u64::try_from` of a signed value. -/
def u64TryFrom (n : Int) : Option Nat :=
  if 0 ≤ n ∧ n < 2 ^ 64 then some n.toNat else none

lemma u64TryFrom_natCast {n : Nat} (hn : n < 2 ^ 64) : u64TryFrom (n : Int) = some n := by
  rw [u64TryFrom, if_pos ⟨Int.natCast_nonneg n, by omega⟩, Int.toNat_natCast]

/-- The watermark a request acknowledges: the larger of the echoed cursor and
the explicit id, where what does not parse or is negative counts as absent. -/
def GetUpdatesRequest.ackWatermark (req : GetUpdatesRequest) : Option Nat :=
  match Text.parseUnsigned 64 (Text.trim req.getUpdatesBuf), req.lastAckId.bind u64TryFrom with
  | some a, some b => some (max a b)
  | some a, none => some a
  | none, some b => some b
  | none, none => none

/-- A client that echoes a cursor verbatim acknowledges exactly that cursor. -/
lemma ackWatermark_echo {cursor : Nat} (hfits : cursor < 2 ^ 64) (timeout : Option Nat) :
    GetUpdatesRequest.ackWatermark { getUpdatesBuf := toString cursor, timeout := timeout } =
        some cursor := by
  simp only [GetUpdatesRequest.ackWatermark, Text.trim_toString,
    Text.parseUnsigned_toString hfits, Option.bind_none]

end IlinkHub
