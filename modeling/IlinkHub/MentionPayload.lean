/-
What a backend is sent of a mention or a broadcast (`set_first_text_item` of
`hub/dispatch/mention.rs`, `handle_cmd_broadcast` of `hub/commands.rs`): the item
of a message that its text is read from, and the item that the payload is written
into.
-/
import IlinkHub.ContextPeers
import IlinkHub.MentionParsing
import IlinkHub.QuoteRouting

namespace IlinkHub

open Transition

universe u

def WeixinMessage.items (msg : WeixinMessage) : List MessageItem :=
  msg.itemList.getD []

section Items

/-- The item that the text of a message is read from: the first one with a text,
else the first one with a transcript. -/
def displayed (items : List MessageItem) : Option Nat :=
  (items.findIdx? fun item => (item.textItem.bind TextItem.text).isSome).or
    (items.findIdx? fun item => (item.voiceItem.bind VoiceItem.text).isSome)

/-- The text is written into the item, whether it had one or not. -/
def MessageItem.withText (text : String) (item : MessageItem) : MessageItem :=
  { item with textItem := some ⟨some text⟩ }

/-- The items with the text written into one of them, if into any. -/
def writeText (text : String) (items : List MessageItem) :
    Option Nat → List MessageItem
  | some index => items.modify index (MessageItem.withText text)
  | none => items

/-- The text of a message with these items. -/
def shownText (items : List MessageItem) : Option String :=
  (items.findSome? fun item => item.textItem.bind TextItem.text).or
    (items.findSome? fun item => item.voiceItem.bind VoiceItem.text)

/-- The items are the same, but for one. -/
def KeptBut (index : Option Nat) (items others : List MessageItem) : Prop :=
  ∀ place, index ≠ some place → others[place]? = items[place]?

variable {items : List MessageItem} {text payload : String} {index : Nat}

lemma isSome_displayed (items : List MessageItem) :
    (displayed items).isSome = (shownText items).isSome := by
  rw [displayed, shownText, Option.isSome_or, Option.isSome_or,
    List.findIdx?_isSome, List.findIdx?_isSome, Bool.eq_iff_iff]
  simp [List.findSome?_isSome_iff]

lemma findSome?_writeText
    (hindex : items.findIdx? (fun item => item.textItem.isSome) = some index) :
    (writeText text items (some index)).findSome?
        (fun item => item.textItem.bind TextItem.text) = some text ∧
      (writeText text items (some index)).findIdx?
        (fun item => (item.textItem.bind TextItem.text).isSome) = some index := by
  induction items generalizing index with
  | nil => cases hindex
  | cons item rest ih =>
    rw [List.findIdx?_cons] at hindex
    split at hindex
    · cases hindex
      exact ⟨rfl, rfl⟩
    · next hpart =>
      obtain ⟨later, hlater, rfl⟩ := Option.map_eq_some_iff.mp hindex
      obtain ⟨hshown, hfound⟩ := ih hlater
      have hnone : item.textItem = none := by simpa using hpart
      simp only [writeText, List.modify_succ_cons] at hshown hfound ⊢
      refine ⟨?_, ?_⟩
      · rw [List.findSome?_cons_of_isNone (by simp [hnone])]
        exact hshown
      · rw [List.findIdx?_cons, if_neg (by simp [hnone]), hfound, Option.map_some]

lemma replaceFirst_eq_writeText (text : String) (items : List MessageItem) :
    setFirstTextItem.replaceFirst text items = writeText text items
      (items.findIdx? fun item => item.textItem.isSome) := by
  induction items with
  | nil => rfl
  | cons item rest ih =>
    rw [setFirstTextItem.replaceFirst, List.findIdx?_cons]
    split
    · rfl
    · rw [ih]
      cases rest.findIdx? fun item => item.textItem.isSome <;> rfl

/-- The item at which a text is written was changed, unless the text of the
message was read there. -/
lemma displayed_of_kept (hindex : items.findIdx? (fun item => item.textItem.isSome) = some index)
    (hkept : (writeText text items (some index))[index]? = items[index]?) :
    displayed items = some index := by
  obtain ⟨hlt, -, hbefore⟩ := List.findIdx?_eq_some_iff_getElem.mp hindex
  have hsame : items[index].withText text = items[index] := by
    rw [writeText, List.getElem?_modify_eq, List.getElem?_eq_getElem hlt] at hkept
    exact Option.some.inj hkept
  have hfirst : items.findIdx? (fun item =>
      (item.textItem.bind TextItem.text).isSome) = some index := by
    refine List.findIdx?_eq_some_iff_getElem.mpr ⟨hlt, ?_, ?_⟩
    · rw [← hsame]
      rfl
    · intro place hplace
      have hnone := hbefore place hplace
      simp only [Bool.not_eq_true, Option.isSome_eq_false_iff, Option.isNone_iff_eq_none] at hnone
      rw [hnone]
      decide
  rw [displayed, hfirst, Option.some_or]

lemma keptBut_writeText (text : String) (items : List MessageItem) (index : Nat) :
    KeptBut (some index) items (writeText text items (some index)) := by
  intro place hplace
  exact List.getElem?_modify_ne _ _ fun heq => hplace (congrArg some heq)

lemma itemList_setFirstTextItem (msg : WeixinMessage) (text : String) :
    (setFirstTextItem msg text).itemList = msg.itemList.map fun items => writeText text items
        (items.findIdx? fun item => item.textItem.isSome) := by
  apply Option.map_congr
  intro items _
  exact replaceFirst_eq_writeText text items

lemma itemList_replaceFirstText (msg : WeixinMessage) (text : String) :
    (Inbound.replaceFirstText msg text).itemList =
      msg.itemList.map fun items => writeText text items
        ((items.take 1).findIdx? fun item => item.textItem.isSome) := by
  apply Option.map_congr
  intro items _
  cases items with
  | nil => rfl
  | cons item rest =>
    obtain ⟨itemType, part, voiceItem⟩ := item
    cases part with
    | none => rfl
    | some part => rfl

end Items

/-- What the user asks the Hub to pass on. -/
inductive Asked where
  | mention (payload : String)
  | broadcast (text : String)
deriving Repr, DecidableEq

namespace Asked

def payload : Asked → String
  | .mention payload => payload
  | .broadcast text => text

/-- The item that the payload is written into: of a mention the first one with a
text part, of a broadcast the first one, if it has a text part. -/
def written : Asked → List MessageItem → Option Nat
  | .mention _, items => items.findIdx? fun item => item.textItem.isSome
  | .broadcast _, items =>
    (items.take 1).findIdx? fun item => item.textItem.isSome

/-- The text of the message says so. -/
def ReadFrom (dispatch : Dispatch) : Asked → Prop
  | .mention payload => ∃ name,
      dispatch.msg.text.bind parseAtMention = some (name, payload)
  | .broadcast text => dispatch.msg.text.bind
      (parseHubCommand dispatch.freshName) = some (.broadcast text)

variable {dispatch : Dispatch} {asked : Asked} {items : List MessageItem} {index : Nat}

lemma findIdx?_of_written (hwritten : asked.written items = some index) :
    items.findIdx? (fun item => item.textItem.isSome) = some index := by
  cases asked with
  | mention payload => exact hwritten
  | broadcast text =>
    cases items with
    | nil => cases hwritten
    | cons item rest =>
      rw [written, List.take_succ_cons, List.take_zero, List.findIdx?_singleton] at hwritten
      split at hwritten
      · next hpart => rw [List.findIdx?_cons, if_pos hpart, hwritten]
      · cases hwritten

/-- The payload is less than the text of the message. -/
lemma exists_text_of_readFrom (hread : asked.ReadFrom dispatch) :
    ∃ text, dispatch.msg.text = some text ∧ asked.payload ≠ text := by
  cases asked with
  | mention payload =>
    obtain ⟨name, hparsed⟩ := hread
    obtain ⟨text, htext, hmention⟩ := Option.bind_eq_some_iff.mp hparsed
    refine ⟨text, htext, ?_⟩
    rintro rfl
    exact (length_lt_of_parseAtMention hmention).ne rfl
  | broadcast cast =>
    obtain ⟨text, htext, hcommand⟩ := Option.bind_eq_some_iff.mp hread
    refine ⟨text, htext, ?_⟩
    rintro rfl
    exact (length_lt_of_parseHubCommand_broadcast hcommand).ne rfl

/-- What the backend is sent, in place of the items of the message. -/
def sent (asked : Asked) (items : List MessageItem) : List MessageItem :=
  writeText asked.payload items (asked.written items)

lemma shownText_sent_iff {text : String}
    (htext : shownText items = some text) (hne : asked.payload ≠ text) :
    shownText (asked.sent items) = some asked.payload ↔ (asked.written items).isSome = true := by
  cases hwritten : asked.written items with
  | none =>
    rw [sent, hwritten, writeText, htext]
    simpa using hne.symm
  | some index =>
    rw [sent, hwritten, shownText, (findSome?_writeText (findIdx?_of_written hwritten)).1]
    simp

/-- The payload alone is displayed where the item that it is written into has a
text part; it takes the place of the text if it is written where the text was
read. -/
lemma sent_iff {text : String} (htext : shownText items = some text)
    (hne : asked.payload ≠ text) :
    (shownText (asked.sent items) = some asked.payload ∧
        KeptBut (displayed (asked.sent items)) items (asked.sent items) ↔
      (asked.written items).isSome = true) ∧
      (shownText (asked.sent items) = some asked.payload ∧
          KeptBut (displayed items) items (asked.sent items) ↔
        asked.written items = displayed items) := by
  have hshown := shownText_sent_iff htext hne
  constructor
  · rw [hshown, and_iff_left_iff_imp]
    intro hsome
    obtain ⟨index, hwritten⟩ := Option.isSome_iff_exists.mp hsome
    rw [sent, hwritten, displayed, (findSome?_writeText (findIdx?_of_written hwritten)).2]
    exact keptBut_writeText asked.payload items index
  · rw [hshown]
    constructor
    · rintro ⟨hsome, hkept⟩
      obtain ⟨index, hwritten⟩ := Option.isSome_iff_exists.mp hsome
      rw [hwritten]
      by_contra hother
      have hsame := hkept index fun heq => hother heq.symm
      rw [sent, hwritten] at hsame
      exact hother (displayed_of_kept (findIdx?_of_written hwritten) hsame).symm
    · intro hsame
      have hsome : (displayed items).isSome = true := by
        rw [isSome_displayed, htext, Option.isSome_some]
      rw [hsame]
      refine ⟨hsome, ?_⟩
      obtain ⟨index, hindex⟩ := Option.isSome_iff_exists.mp hsome
      rw [sent, hsame, hindex]
      exact keptBut_writeText asked.payload items index

end Asked

def RoutingDecision.asked : RoutingDecision → Option Asked
  | .hubInternal (.broadcast text) => some (.broadcast text)
  | _ => none

/-- What the dispatch is passing on. -/
def DispatchPhase.asked : DispatchPhase → Option Asked
  | .mentionAlias _ payload _ | .mention _ payload _ => some (.mention payload)
  | .quote base _ => base.asked
  | .command (.castVisible text) | .command (.castOnline text _)
  | .command (.cast text _) | .command (.castExt text _ _ _)
  | .command (.castPush text _ _ _ _) => some (.broadcast text)
  | _ => none

namespace Dispatch

variable {config : HubConfig} {dispatch : Dispatch} {data : HubData} {env : HubEnv} {asked : Asked}

lemma asked_decided {decision : RoutingDecision}
    (hasked : (dispatch.decided decision).asked = some asked) : decision.asked = some asked := by
  cases decision with
  | hubInternal cmd =>
    simp only [decided, handleHubCommand] at hasked
    split at hasked
    · cases hasked
    · cases cmd <;> exact hasked
  | _ => cases hasked

variable {base : RoutingDecision}

/-- A quote of a backend asks for nothing. -/
lemma asked_merge {origin : QuoteOrigin} (horigin : ∀ cmd, origin ≠ .hub cmd)
    (hasked : (dispatch.decided (mergeRoutingWithQuote base (some origin))).asked = some asked) :
    base.asked = some asked := by
  have hmerged := asked_decided hasked
  cases base with
  | hubInternal cmd => exact hmerged
  | _ =>
    cases origin with
    | client _ _ _ _ => cases hmerged
    | hub cmd => exact absurd rfl (horigin cmd)

lemma asked_quoteFound {found : Option (String × String)} {stage : QuoteStage}
    (hasked : (quoteFound base found (.quote base stage)).asked = some asked) :
    base.asked = some asked := by
  unfold quoteFound at hasked
  split at hasked <;> exact hasked

lemma asked_quoteNext {stage : QuoteStage}
    (hasked : (dispatch.quoteNext config data env base stage).asked = some asked) :
    base.asked = some asked := by
  cases stage with
  | footer =>
    simp only [quoteNext] at hasked
    split at hasked
    · exact asked_decided hasked
    · split at hasked
      · exact asked_merge (by simp) hasked
      · split at hasked
        · exact hasked
        · exact asked_decided hasked
  | scope sessionKey =>
    simp only [quoteNext] at hasked
    split at hasked
    · exact hasked
    · exact asked_decided hasked
  | session sessionKey vctx =>
    simp only [quoteNext] at hasked
    split at hasked
    · exact hasked
    · exact asked_decided hasked
  | origin vtoken sessionName =>
    obtain ⟨name, label, hclient⟩ := QuoteOrigin.exists_ofVtoken
      data.registry.toClientRegistry vtoken sessionName
    simp only [quoteNext, hclient] at hasked
    exact asked_merge (by simp) hasked
  | _ => exact asked_quoteFound hasked

lemma asked_commandNext {stage : CommandStage}
    (hasked : (dispatch.commandNext config data env stage).asked = some asked) :
    (DispatchPhase.command stage).asked = some asked := by
  cases stage with
  | castVisible _ | castOnline _ _ | castExt _ _ _ _ | castPush _ _ _ _ _ =>
    exact hasked
  | cast text recipients =>
    cases recipients with
    | nil => cases hasked
    | cons own rest =>
      simp only [commandNext] at hasked
      split at hasked
      · exact hasked
      · cases hasked
  | sessionRoute cmd vctx =>
    simp only [commandNext] at hasked
    split at hasked
    · cases cmd <;> cases hasked
    · cases hasked
  | _ =>
    simp only [commandNext] at hasked
    repeat' split at hasked
    all_goals cases hasked

/-- A dispatch passes on what it read from the text of its message. -/
lemma asked_next {phase : DispatchPhase}
    (hasked : (dispatch.next config data env phase).asked = some asked) :
    phase.asked = some asked ∨ asked.ReadFrom dispatch := by
  cases phase with
  | received =>
    simp only [next] at hasked
    split at hasked
    · cases hasked
    · split at hasked
      · next name payload hparsed =>
        cases hasked
        exact .inr ⟨name, hparsed⟩
      · cases hasked
  | mentionAlias name payload visible =>
    simp only [next] at hasked
    split at hasked
    · exact .inl hasked
    · cases hasked
  | mention vtoken payload stage =>
    cases stage with
    | resolve =>
      simp only [next, mentionNext] at hasked
      split at hasked
      · exact .inl hasked
      · cases hasked
    | push _ _ => cases hasked
    | _ => exact .inl hasked
  | route =>
    have hroute : (data.router.route dispatch.freshName dispatch.msg).asked = some asked := hasked
    unfold Router.route at hroute
    split at hroute
    · next cmd hparsed =>
      cases cmd with
      | broadcast text =>
        cases hroute
        exact .inr hparsed
      | _ => cases hroute
    · split at hroute <;> cases hroute
  | quote base stage => exact .inl (asked_quoteNext hasked)
  | forward vtoken sessionOverride phase =>
    simp only [next] at hasked
    split at hasked <;> cases hasked
  | command stage => exact .inl (asked_commandNext hasked)
  | finished => cases hasked

lemma itemList_of_delivery {phase : DispatchPhase} {vtoken : String} {enqueued : WeixinMessage}
    (hdelivery : dispatch.delivery phase = some (vtoken, enqueued))
    (hasked : phase.asked = some asked) :
    enqueued.itemList = dispatch.msg.itemList.map asked.sent := by
  revert hdelivery hasked
  fun_cases delivery dispatch phase with
  | case1 own payload vctx hubExt =>
    intro hdelivery hasked
    cases hdelivery
    cases hasked
    exact itemList_setFirstTextItem dispatch.msg payload
  | case2 own sessionOverride vctx hubExt =>
    intro _ hasked
    cases hasked
  | case3 text own vctx hubExt rest =>
    intro hdelivery hasked
    cases hdelivery
    cases hasked
    exact itemList_replaceFirstText _ text
  | case4 =>
    intro hdelivery
    cases hdelivery

end Dispatch

namespace HubState

variable {τ : Type u} {config : HubConfig} {state : HubState τ}

/-- Every dispatch passes on what it read from the text of its message. -/
def Reading (state : HubState τ) : Prop :=
  ∀ t dispatch phase asked, state.tasks t = .dispatch dispatch phase →
    phase.asked = some asked → asked.ReadFrom dispatch

lemma reading_start (tasks : τ → Task) (data : HubData)
    (removed : List String) : Reading (start tasks data removed) := by
  intro t dispatch phase asked htask hasked
  simp only [start] at htask
  cases hown : tasks t with
  | dispatch own =>
    rw [hown] at htask
    obtain ⟨rfl, rfl⟩ := Running.dispatch.inj htask
    cases hasked
  | _ =>
    rw [hown] at htask
    cases htask

lemma reading_step [DecidableEq τ] (event : HubEvent τ)
    (hreading : state.Reading) : (state.step config event).Reading := by
  intro t dispatch phase asked htask hasked
  rcases state.task_step event t with
    ⟨env, rfl⟩ | hcancelled | ⟨hsame, -⟩
  · rw [tasks_step_run] at htask
    cases hown : state.tasks t with
    | dispatch own before =>
      rw [hown] at htask
      obtain ⟨rfl, rfl⟩ := Running.dispatch.inj htask
      rcases Dispatch.asked_next hasked with hbefore | hread
      · exact hreading t own before asked hown hbefore
      · exact hread
    | _ =>
      rw [hown] at htask
      cases htask
  · rw [hcancelled] at htask
    cases htask
  · rw [hsame] at htask
    exact hreading t dispatch phase asked htask hasked

variable [DecidableEq τ] {tasks : τ → Task} {data : HubData} {removed : List String}
  {events : List (HubEvent τ)} {t : τ} {dispatch : Dispatch} {phase : DispatchPhase}
  {vtoken : String} {enqueued : WeixinMessage} {asked : Asked}

/-- In every run, what a mention or a broadcast puts into the queue of a backend
has the payload in place of the text exactly if the payload is written into the
item that the text was read from.  If it is written into any, it is displayed,
and the other items are those of the message. -/
theorem payloadOnly_iff (htask : (run (step config) (start tasks data removed)
      events).tasks t = .dispatch dispatch phase)
    (hdelivery : dispatch.delivery phase = some (vtoken, enqueued))
    (hasked : phase.asked = some asked) :
    asked.ReadFrom dispatch ∧ (enqueued.text = some asked.payload ∧
          KeptBut (displayed dispatch.msg.items) dispatch.msg.items enqueued.items ↔
        asked.written dispatch.msg.items = displayed dispatch.msg.items) ∧
      (enqueued.text = some asked.payload ∧ KeptBut (displayed enqueued.items) dispatch.msg.items
            enqueued.items ↔
        (asked.written dispatch.msg.items).isSome = true) := by
  have hreading : Reading (run (step config) _ events) :=
    run_invariant (fun _ event => reading_step event)
      (reading_start tasks data removed) events
  have hread := hreading t dispatch phase asked htask hasked
  obtain ⟨text, htext, hne⟩ := Asked.exists_text_of_readFrom hread
  obtain ⟨items, hitems, hshown⟩ := Option.bind_eq_some_iff.mp htext
  have hsent : enqueued.itemList = some (asked.sent items) := by
    rw [Dispatch.itemList_of_delivery hdelivery hasked, hitems, Option.map_some]
  have henqueued : enqueued.text = shownText (asked.sent items) := by
    rw [WeixinMessage.text, hsent]
    rfl
  obtain ⟨hdisplayed, hreplaced⟩ := Asked.sent_iff hshown hne
  rw [henqueued, WeixinMessage.items, WeixinMessage.items, hsent, hitems]
  exact ⟨hread, hreplaced, hdisplayed⟩

end HubState

namespace Sample

/-- A client is registered, and the user sends a message. -/
def mentionTasks (msg : WeixinMessage) : Fin 2 → Task
  | 0 => .admin (.register "bot" none none)
  | 1 => .dispatch { inbound := { inbound "u" "" with msg := msg } }

/-- Up to the delivery. -/
def mentionDelivers : List (HubEvent (Fin 2)) :=
  List.replicate 4 (.run ⟨0, Nat.zero_lt_two⟩ { drawn := "h1" }) ++
    List.replicate 5 (.run ⟨1, Nat.one_lt_two⟩ { now := 1 })

/-- The user speaks the mention. -/
def spoken : WeixinMessage :=
  { (inbound "u" "").msg with
    itemList := some [{ itemType := some 3, voiceItem := some ⟨some "@bot hi"⟩ }] }

def mentionHub (msg : WeixinMessage) : HubState (Fin 2) :=
  run (HubState.step noAcl) (.start (mentionTasks msg) freshHub []) mentionDelivers

end Sample

namespace HubState

open Sample

/-- The typed mention reaches the backend without the name. -/
theorem payloadOnly_typed :
    ∃ dispatch vctx hubExt enqueued, (mentionHub (inbound "u" "@bot hi").msg).tasks 1 =
          .dispatch dispatch (.mention "h1" "hi" (.push vctx hubExt)) ∧
        dispatch.delivery (.mention "h1" "hi" (.push vctx hubExt)) = some ("h1", enqueued) ∧
        enqueued.text = some "hi" ∧
        KeptBut (displayed dispatch.msg.items) dispatch.msg.items enqueued.items := by
  obtain ⟨dispatch, vctx, hubExt, htask, hmsg⟩ : ∃ dispatch vctx hubExt,
      (mentionHub (inbound "u" "@bot hi").msg).tasks 1 =
          .dispatch dispatch (.mention "h1" "hi" (.push vctx hubExt)) ∧
        dispatch.msg = (inbound "u" "@bot hi").msg :=
    ⟨_, _, _, rfl, rfl⟩
  refine ⟨dispatch, vctx, hubExt, _, htask, rfl, ?_⟩
  apply (payloadOnly_iff htask rfl rfl).2.1.mpr
  rw [hmsg]
  rfl

/-- The spoken mention reaches it as it is. -/
theorem not_payloadOnly_spoken :
    spoken.text.bind parseAtMention = some ("bot", "hi") ∧ ∃ dispatch vctx hubExt enqueued,
        (mentionHub spoken).tasks 1 = .dispatch dispatch (.mention "h1" "hi" (.push vctx hubExt)) ∧
          dispatch.msg = spoken ∧
          dispatch.delivery (.mention "h1" "hi" (.push vctx hubExt)) = some ("h1", enqueued) ∧
          enqueued.text = some "@bot hi" ∧ enqueued.text ≠ some "hi" :=
  ⟨by decide, _, _, _, _, rfl, rfl, rfl, by decide +kernel, by decide +kernel⟩

end HubState

end IlinkHub
