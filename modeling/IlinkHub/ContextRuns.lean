/-
Sequences of `find_or_create_vctx` calls, one at a time: every conversation keeps
one virtual context, and its row has the real context of the last call.  The
table of rows refines a table that gives names to keys.
-/
import IlinkHub.ContextSql
import IlinkHub.Interning

namespace IlinkHub

open History VctxCall Transition

/-- A group or a peer. -/
inductive Conversation where
  | group (id : String)
  | peer (id : String)
deriving Repr, DecidableEq

def Conversation.key : Conversation → String
  | .group id => "group:" ++ id
  | .peer id => if id ≠ "" then "peer:" ++ id else ""

lemma Conversation.key_injective : Function.Injective key := by
  intro left right hkey
  have hlists := congrArg String.toList hkey
  cases left with
  | group id =>
    cases right with
    | group other => simpa [key] using hkey
    | peer other =>
      by_cases hother : other = ""
      · simp [key, hother] at hkey
      · simp [key, hother] at hlists
  | peer id =>
    cases right with
    | group other =>
      by_cases hid : id = ""
      · simp [key, hid] at hkey
      · simp [key, hid] at hlists
    | peer other =>
      by_cases hid : id = ""
      · by_cases hother : other = ""
        · rw [hid, hother]
        · simp [key, hid, hother] at hkey
      · by_cases hother : other = ""
        · simp [key, hid, hother] at hkey
        · simpa [key, hid, hother] using hkey

namespace VctxCall

variable (call : VctxCall)

/-- The group if there is one, otherwise the peer. -/
def conversation : Conversation :=
  match call.groupId.filter fun group => group ≠ "" with
  | some group => .group group
  | none => .peer call.peerUserId

lemma convKey_eq : call.convKey = call.conversation.key := by
  unfold convKey conversation Store.convKey
  cases call.groupId.filter fun group => group ≠ "" with
  | some group => rfl
  | none => rfl

/-- The key is the scope of a message of the same conversation. -/
lemma derivePeerScope_eq {msg : WeixinMessage} (hkey : call.convKey ≠ "")
    (hpeer : msg.fromUserId.getD "" = call.peerUserId)
    (hgroup : msg.groupId.getD "" = call.groupId.getD "") :
    derivePeerScope msg = some call.convKey := by
  unfold derivePeerScope
  unfold convKey Store.convKey at hkey ⊢
  rw [hpeer, hgroup]
  cases hid : call.groupId with
  | none =>
    simp only [hid] at hkey ⊢
    by_cases hempty : call.peerUserId = ""
    · simp [hempty] at hkey
    · simp [hempty]
  | some group =>
    by_cases hnone : group = ""
    · simp only [hid, hnone, Option.filter_some] at hkey ⊢
      by_cases hempty : call.peerUserId = ""
      · simp [hempty] at hkey
      · simp [hempty]
    · simp [hnone, Option.filter_some]

end VctxCall

/-- A call with its result and the table that it leaves. -/
def VctxCall.answer (kind : DatabaseKind) (table : ContextTable)
    (call : VctxCall) : Option (Except SqlxError String) × ContextTable :=
  ((call.alone kind table).2.result, (call.alone kind table).1)

/-- Conversations get names, with the last real context as their value. -/
def vctxSpec : Interning.Spec VctxCall String String String where
  key := convKey
  value := VctxCall.realCtx
  candidate := insertCandidate

/-- The rows are the names with their keys and values. -/
def ContextTable.Represents (table : ContextTable)
    (names : Interning.Table String String String) : Prop :=
  ∀ vctx row, table.lookup vctx = some row ↔ ∃ key realCtx, names key = some (vctx, realCtx) ∧
      row = ⟨realCtx, some key⟩

/-- The calls so far with their results. -/
abbrev VctxRun : Type :=
  Recorded ContextTable VctxCall (Option (Except SqlxError String))

/-- The peer or the group is known, the name that is drawn is new, and the real
context has not been used in another conversation. -/
def VctxRun.Fair (run : VctxRun) (call : VctxCall) : Prop :=
  (call.peerUserId ≠ "" ∨ call.groupId.any (· ≠ "") = true) ∧
    (∀ entry ∈ run.log, entry.1.insertCandidate ≠ call.insertCandidate) ∧
    ∀ entry ∈ run.log, entry.1.realCtx = call.realCtx → entry.1.conversation = call.conversation
deriving Decidable

/-- Every call has succeeded, calls have the same context exactly if they have the
same conversation, and the row of a context has the real context of the last call
of the conversation, under the scope of its messages. -/
structure VctxRun.Stable (run : VctxRun) : Prop where
  succeeded : ∀ entry ∈ run.log, ∃ vctx, entry.2 = some (.ok vctx)
  same_iff : ∀ left ∈ run.log, ∀ right ∈ run.log,
    left.2 = right.2 ↔ left.1.conversation = right.1.conversation
  row : ∀ entry ∈ run.log, ∀ vctx, entry.2 = some (.ok vctx) →
    ∃ row, run.state.lookup vctx = some row ∧ (run.log.find? fun other =>
        other.1.conversation = entry.1.conversation).map
          (fun other => other.1.realCtx) = some row.realCtx ∧
      ∀ msg : WeixinMessage,
        msg.fromUserId.getD "" = entry.1.peerUserId →
        msg.groupId.getD "" = entry.1.groupId.getD "" →
        derivePeerScope msg = row.peerUserId

namespace ContextTable

variable {table : ContextTable}
  {recorded : Recorded (Interning.Table String String String) VctxCall String} {call : VctxCall}

open Interning.Spec (Tracks Fresh assign_key assign_of_ne assign_of_some
  assign_of_none)

/-- The row of the call's conversation is written. -/
lemma Represents.assign {after : ContextTable} (hrows : table.Represents recorded.state)
    (htracks : vctxSpec.Tracks recorded) (hfresh : vctxSpec.Fresh recorded.log call)
    (hafter : ∀ vctx, after.lookup vctx =
      if vctx = (vctxSpec.assign recorded.state call).1 then some call.row
      else table.lookup vctx) : after.Represents (vctxSpec.assign recorded.state call).2 := by
  intro vctx row
  rw [hafter]
  split
  · next hvctx =>
    subst hvctx
    constructor
    · intro hrow
      cases hrow
      exact ⟨call.convKey, call.realCtx, assign_key, rfl⟩
    · rintro ⟨key, realCtx, hkey, rfl⟩
      obtain rfl := (htracks.step hfresh).distinct _ _ _ _ _ hkey assign_key
      obtain ⟨-, rfl⟩ := Prod.mk.inj (Option.some.inj (hkey.symm.trans assign_key))
      rfl
  · next hvctx =>
    rw [hrows]
    constructor
    · rintro ⟨key, realCtx, hkey, rfl⟩
      refine ⟨key, realCtx, ?_, rfl⟩
      rw [assign_of_ne ?_]
      · exact hkey
      · rintro rfl
        exact hvctx (assign_of_some hkey).symm
    · rintro ⟨key, realCtx, hkey, rfl⟩
      refine ⟨key, realCtx, ?_, rfl⟩
      rwa [assign_of_ne ?_] at hkey
      rintro rfl
      exact hvctx (Prod.mk.inj (Option.some.inj (hkey.symm.trans assign_key))).1

/-- The row of a conversation is found under its key. -/
lemma Represents.selectByPeer (hrows : table.Represents recorded.state) (key : String) :
    table.selectByPeer key = (recorded.state key).map Prod.fst := by
  cases hfound : table.selectByPeer key with
  | none =>
    cases hname : recorded.state key with
    | none => rfl
    | some named =>
      obtain ⟨vctx, realCtx⟩ := named
      exact absurd rfl (selectByPeer_eq_none_iff.mp hfound _ _
        ((hrows vctx ⟨realCtx, some key⟩).mpr ⟨_, _, hname, rfl⟩))
  | some vctx =>
    obtain ⟨row, hrow, hpeer⟩ := of_selectByPeer hfound
    obtain ⟨own, realCtx, hname, rfl⟩ := (hrows _ _).mp hrow
    cases hpeer
    rw [hname]
    rfl

section RealContexts

variable (hrows : table.Represents recorded.state)
  (htracks : vctxSpec.Tracks recorded)
  (hreal : ∀ entry ∈ recorded.log, entry.1.realCtx = call.realCtx → entry.1.convKey = call.convKey)

include hrows htracks hreal

/-- The real context of a call stands at most in the row of its conversation. -/
lemma Represents.owner {vctx : String} {row : ContextRow}
    (hrow : table.lookup vctx = some row) (hsame : row.realCtx = call.realCtx) :
    ∃ realCtx, recorded.state call.convKey = some (vctx, realCtx) := by
  obtain ⟨key, realCtx, hkey, rfl⟩ := (hrows vctx row).mp hrow
  have hlatest := htracks.latest key
  rw [hkey] at hlatest
  obtain ⟨entry, hentry, hvalue⟩ := Option.map_eq_some_iff.mp hlatest.symm
  have hown : vctxSpec.key entry.1 = key := by
    simpa using List.find?_some hentry
  have hconv := hreal entry (List.mem_of_find?_eq_some hentry) (hvalue.trans hsame)
  refine ⟨realCtx, ?_⟩
  rw [← hconv, show entry.1.convKey = key from hown]
  exact hkey

/-- The real context is in no row but the one of the conversation. -/
lemma Represents.free_of_some {vctx realCtx : String}
    (hname : recorded.state call.convKey = some (vctx, realCtx)) :
    hasRealCtx (table.erase vctx) call.realCtx = false := by
  rw [hasRealCtx_eq_false_iff]
  intro other row hother hsame
  rw [Query.lookup_erase] at hother
  split at hother
  · cases hother
  · next hne =>
    obtain ⟨last, hlast⟩ := hrows.owner htracks hreal hother hsame
    rw [hname] at hlast
    exact hne (Prod.mk.inj (Option.some.inj hlast)).1.symm

lemma Represents.free_of_none (hname : recorded.state call.convKey = none) :
    table.hasRealCtx call.realCtx = false := by
  rw [hasRealCtx_eq_false_iff]
  intro vctx row hrow hsame
  obtain ⟨last, hlast⟩ := hrows.owner htracks hreal hrow hsame
  simp [hname] at hlast

end RealContexts

lemma Represents.unused (hrows : table.Represents recorded.state)
    (htracks : vctxSpec.Tracks recorded) (hfresh : vctxSpec.Fresh recorded.log call) :
    table.lookup call.insertCandidate = none := by
  cases hrow : table.lookup call.insertCandidate with
  | none => rfl
  | some row =>
    obtain ⟨key, realCtx, hown, rfl⟩ := (hrows _ _).mp hrow
    obtain ⟨entry, hentry, hdrawn⟩ := htracks.named _ _ _ hown
    exact absurd hdrawn (hfresh entry hentry)

/-- The statements of a call do what the names say. -/
lemma Represents.alone (kind : DatabaseKind) (hrows : table.Represents recorded.state)
    (htracks : vctxSpec.Tracks recorded) (hkey : call.convKey ≠ "")
    (hfresh : vctxSpec.Fresh recorded.log call)
    (hreal : ∀ entry ∈ recorded.log, entry.1.realCtx = call.realCtx →
      entry.1.convKey = call.convKey) :
    ∃ after, call.alone kind table = (after, .done (.ok (vctxSpec.assign recorded.state call).1)) ∧
      ∀ vctx, after.lookup vctx =
        if vctx = (vctxSpec.assign recorded.state call).1 then some call.row
        else table.lookup vctx := by
  have hselect := hrows.selectByPeer call.convKey
  cases hname : recorded.state call.convKey with
  | some named =>
    obtain ⟨vctx, realCtx⟩ := named
    have hrow := (hrows _ _).mpr ⟨_, _, hname, rfl⟩
    rw [hname] at hselect
    rw [assign_of_some hname]
    refine ⟨table.insert vctx call.row, ?_, fun _ => Query.lookup_insert ..⟩
    rw [alone_of_update hkey hselect, updateRealCtx, hrow]
    simp only [hrows.free_of_some htracks hreal hname]
    rfl
  | none =>
    rw [hname] at hselect
    rw [assign_of_none hname]
    have hfree : table.hasRealCtx call.row.realCtx = false :=
      hrows.free_of_none htracks hreal hname
    have hpeer : table.hasPeer call.row.peerUserId = false :=
      hasPeer_eq_false_iff.mpr (.inr hselect)
    refine ⟨table.insert call.insertCandidate call.row, ?_, fun _ => Query.lookup_insert ..⟩
    rw [alone_of_insert (Or.inr hselect),
      insertInto_vctx_of_none (hrows.unused htracks hfresh), hfree, hpeer]
    exact step_reselect_insert

end ContextTable

namespace VctxRun

lemma convKey_ne_empty {call : VctxCall}
    (hknown : call.peerUserId ≠ "" ∨ call.groupId.any (· ≠ "") = true) : call.convKey ≠ "" := by
  rw [convKey, Store.convKey]
  split
  · simp
  · next hnone =>
    rcases hknown with hpeer | hgroup
    · simp [hpeer]
    · cases hid : call.groupId with
      | none => simp [hid] at hgroup
      | some group =>
        simp only [hid, Option.any_some] at hgroup
        simp only [hid, Option.filter_some, hgroup] at hnone
        cases hnone

variable {kind : DatabaseKind} {calls : List VctxCall}

/-- What the calls and the names have in common. -/
structure Rel (table : ContextTable)
    (recorded : Recorded (Interning.Table String String String) VctxCall String) : Prop where
  rows : table.Represents recorded.state
  tracks : vctxSpec.Tracks recorded
  keyed : ∀ entry ∈ recorded.log, entry.1.convKey ≠ ""

lemma rel_start : Rel ∅ Interning.Spec.start where
  rows vctx row := by
    constructor
    · intro hrow
      cases hrow
    · rintro ⟨key, realCtx, hkey, -⟩
      cases hkey
  tracks := vctxSpec.tracks_start
  keyed _ hentry := by cases hentry

lemma rel_step {table : ContextTable}
    {recorded : Recorded (Interning.Table String String String) VctxCall
      String} {call : VctxCall} (hrel : Rel table recorded)
    (hfair : Fair ⟨table, translate (fun vctx => some (.ok vctx)) recorded.log⟩ call) :
    (call.answer kind table).1 = some (.ok (vctxSpec.assign recorded.state call).1) ∧
      Rel (call.answer kind table).2 (record vctxSpec.assign recorded call) := by
  obtain ⟨hknown, hdrawn, hused⟩ := hfair
  have hkey := convKey_ne_empty hknown
  have hfresh : vctxSpec.Fresh recorded.log call := fun entry hentry =>
    hdrawn (entry.1, _) (mem_translate.mpr ⟨_, _, hentry, rfl⟩)
  have hreal : ∀ entry ∈ recorded.log, entry.1.realCtx = call.realCtx →
      entry.1.convKey = call.convKey := by
    intro entry hentry hsame
    rw [convKey_eq, convKey_eq, hused (entry.1, _) (mem_translate.mpr ⟨_, _, hentry, rfl⟩) hsame]
  obtain ⟨after, halone, hafter⟩ :=
    hrel.rows.alone kind hrel.tracks hkey hfresh hreal
  rw [answer, halone]
  refine ⟨rfl, hrel.rows.assign hrel.tracks hfresh hafter, hrel.tracks.step hfresh, ?_⟩
  exact List.forall_mem_cons.mpr ⟨hkey, hrel.keyed⟩

lemma Rel.keepsApart {table : ContextTable}
    {recorded : Recorded (Interning.Table String String String) VctxCall
      String} (hrel : Rel table recorded) :
    Stable ⟨table, translate (fun vctx => some (.ok vctx)) recorded.log⟩ where
  succeeded entry hentry := by
    obtain ⟨call, vctx, -, rfl⟩ := mem_translate.mp hentry
    exact ⟨vctx, rfl⟩
  same_iff left hleft right hright := by
    obtain ⟨call, vctx, hcall, rfl⟩ := mem_translate.mp hleft
    obtain ⟨other, own, hother, rfl⟩ := mem_translate.mp hright
    rw [← Conversation.key_injective.eq_iff, ← convKey_eq, ← convKey_eq]
    exact Iff.trans (by simp) (hrel.tracks.same_name_iff hcall hother)
  row entry hentry vctx hvctx := by
    obtain ⟨call, own, hcall, rfl⟩ := mem_translate.mp hentry
    cases hvctx
    obtain ⟨realCtx, hname⟩ := hrel.tracks.kept _ hcall
    refine ⟨⟨realCtx, some call.convKey⟩, (hrel.rows _ _).mpr ⟨_, _, hname, rfl⟩, ?_, ?_⟩
    · have hlatest := hrel.tracks.latest call.convKey
      rw [show recorded.state call.convKey = _ from hname] at hlatest
      have hsame : ∀ other : VctxCall,
          decide (other.conversation = call.conversation) =
            decide (vctxSpec.key other = call.convKey) := by
        intro other
        rw [decide_eq_decide, ← Conversation.key_injective.eq_iff, ← convKey_eq, ← convKey_eq]
        rfl
      simp only [hsame, History.translate, List.find?_map, Option.map_map]
      exact hlatest.symm
    · intro msg hpeer hgroup
      exact call.derivePeerScope_eq (hrel.keyed _ hcall) hpeer hgroup

/-- Every sequence of calls keeps the contexts of the conversations apart, and
each one up to date. -/
theorem stable (hfair : EveryStep (record (VctxCall.answer kind)) Fair (start ∅) calls) :
    Stable (run (record (VctxCall.answer kind)) (start ∅) calls) := by
  obtain ⟨hlog, hrel⟩ := refines_of_everyStep
    (fun _ _ _ hrel hfair => rel_step hrel hfair) rel_start hfair
  have hstable := hrel.keepsApart
  rw [← hlog] at hstable
  exact hstable

end VctxRun

/-- A peer, a group with the same id, and the peer again. -/
def Sample.vctxCalls : List VctxCall :=
  [⟨"u", none, "c1", "vctx_1", "vctx_2"⟩, ⟨"v", some "u", "c2", "vctx_3", "vctx_4"⟩,
    ⟨"u", some "", "c3", "vctx_5", "vctx_6"⟩]

theorem VctxRun.stable_sample : ((run (record (VctxCall.answer .sqlite))
        (start ∅) Sample.vctxCalls).state.lookup "vctx_2") = some ⟨"c3", some "peer:u"⟩ ∧
      Stable (run (record (VctxCall.answer .sqlite)) (start ∅) Sample.vctxCalls) :=
  ⟨by decide +kernel, stable (by decide +kernel)⟩

end IlinkHub
