/-
What a parsed allowlist grants (`hub/acl.rs`): the two queries about agents
agree, the order and repetition of entries are irrelevant, joined specifications
grant what their parts grant, and what a malformed entry can widen.
-/
import Mathlib.Data.Fintype.EquivFin
import IlinkHub.AclParse

namespace IlinkHub

open Text

namespace AgentAcl

variable (acl : AgentAcl)

/-- The targets a caller may see; `none` when a wildcard applies. -/
def visibleTargetsForAgent (caller : String) : Option (List String) :=
  let targets := [caller, wildcard].flatMap fun key =>
    (acl.a2a.lookup key).getD []
  targets.foldlM (fun visible target =>
      if target = wildcard then none else some (visible.insert target)) []

/-- Some WeChat entry is configured, so that users see the granted backends
only. -/
def Restricted : Prop :=
  ¬ (acl.wechatPublic.isEmpty && acl.wechatUsers.entries.isEmpty) = true
deriving Decidable

/-- An entry shows the backend to the user. -/
def GrantsWechat (userId backend : String) : Prop :=
  backend ∈ acl.wechatPublic ∨ Multimap.Has acl.wechatUsers userId backend

/-- The registered names a user sees, all of them without a restriction. -/
def clientsSeen (userId : String) (registered : List String) : List String :=
  (acl.wechatVisible userId registered).getD registered

variable {acl} {caller target userId name : String}

lemma allowsA2a_iff :
    acl.allowsA2a caller target = true ↔ ∃ key ∈ [caller, wildcard], ∃ goal ∈ [target, wildcard],
        Multimap.Has acl.a2a key goal := by
  have hgrants : ∀ key, (acl.a2a.lookup key).any (fun targets =>
      targets.contains target || targets.contains wildcard) = true ↔
        Multimap.Has acl.a2a key target ∨
          Multimap.Has acl.a2a key wildcard := by
    intro key
    unfold Multimap.Has
    cases acl.a2a.lookup key <;> simp
  rw [allowsA2a, Bool.or_eq_true, hgrants, hgrants]
  simp

/-- The loop over the targets stops at a wildcard; without one it collects
them. -/
lemma all_collect (visible targets : List String) : (targets.foldlM (fun visible target =>
        if target = wildcard then none else some (visible.insert target))
      visible).all (fun names => target ∈ names) = true ↔
      target ∈ visible ∨ target ∈ targets ∨ wildcard ∈ targets := by
  induction targets generalizing visible with
  | nil => simp
  | cons head rest ih =>
    rw [List.foldlM_cons]
    by_cases hwild : head = wildcard
    · simp [hwild]
    · rw [if_neg hwild, Option.bind_eq_bind, Option.bind_some, ih]
      simp only [List.mem_insert_iff, List.mem_cons]
      tauto

/-- The visible targets are the ones that may be called. -/
lemma allowsA2a_iff_all_visible :
    acl.allowsA2a caller target = true ↔ (acl.visibleTargetsForAgent caller).all
        (fun names => target ∈ names) = true := by
  rw [allowsA2a_iff, visibleTargetsForAgent, all_collect]
  simp only [List.mem_flatMap, List.mem_cons, List.not_mem_nil,
    or_false, exists_eq_or_imp, exists_eq_left]
  tauto

lemma mem_clientsSeen_iff {registered : List String} :
    name ∈ acl.clientsSeen userId registered ↔
      name ∈ registered ∧ (acl.Restricted → acl.GrantsWechat userId name) := by
  unfold clientsSeen wechatVisible Restricted
  split
  · next hnone => simp [hnone]
  · next hsome => simp [hsome, GrantsWechat, Multimap.Has, and_comm, and_or_left]

lemma exists_not_grantsWechat (acl : AgentAcl) (userId : String) :
    ∃ name, ¬ acl.GrantsWechat userId name := by
  obtain ⟨name, hname⟩ := Infinite.exists_notMem_finset
    (acl.wechatPublic ++ (acl.wechatUsers.lookup userId).getD []).toFinset
  refine ⟨name, fun hgrants => hname ?_⟩
  simpa [GrantsWechat, Multimap.Has] using hgrants

end AgentAcl

namespace ParsedAcl

variable {acl left right : ParsedAcl} {read others : List AclEntry} {joined : ParsedAcl}

/-- The grants of the first allowlist are those of the other two together. -/
structure UnionOf (joined left right : ParsedAcl) : Prop where
  a2a : ∀ caller target, Multimap.Has joined.a2a caller target ↔
    Multimap.Has left.a2a caller target ∨ Multimap.Has right.a2a caller target
  wechatUsers : ∀ uid backend, Multimap.Has joined.wechatUsers uid backend ↔
    Multimap.Has left.wechatUsers uid backend ∨ Multimap.Has right.wechatUsers uid backend
  wechatPublic : ∀ backend, backend ∈ joined.wechatPublic ↔
    backend ∈ left.wechatPublic ∨ backend ∈ right.wechatPublic
  specPresent : joined.specPresent = (left.specPresent || right.specPresent)

/-- The entries of an allowlist determine it, up to order and repetition. -/
lemma Reads.same (hleft : left.Reads read) (hright : right.Reads others)
    (hentries : ∀ entry, entry ∈ read ↔ entry ∈ others) : left.Same right where
  a2a := Multimap.same_of_has_iff hleft.inhabitedA2a hright.inhabitedA2a
    fun caller target => by rw [hleft.a2a, hright.a2a, hentries]
  wechatUsers :=
    Multimap.same_of_has_iff hleft.inhabitedUsers hright.inhabitedUsers
      fun uid backend => by rw [hleft.wechatUsers, hright.wechatUsers, hentries]
  wechatPublic := by
    ext backend
    rw [List.mem_toFinset, List.mem_toFinset, hleft.wechatPublic, hright.wechatPublic, hentries]
  specPresent := by
    rw [Bool.eq_iff_iff, hleft.specPresent, hright.specPresent]
    simp only [hentries]

lemma Reads.unionOf (hjoined : joined.Reads (read ++ others))
    (hleft : left.Reads read) (hright : right.Reads others) : joined.UnionOf left right where
  a2a caller target := by
    rw [hjoined.a2a, hleft.a2a, hright.a2a, List.mem_append]
  wechatUsers uid backend := by
    rw [hjoined.wechatUsers, hleft.wechatUsers, hright.wechatUsers, List.mem_append]
  wechatPublic backend := by
    rw [hjoined.wechatPublic, hleft.wechatPublic, hright.wechatPublic, List.mem_append]
  specPresent := by
    rw [Bool.eq_iff_iff, Bool.or_eq_true, hjoined.specPresent,
      hleft.specPresent, hright.specPresent]
    simp only [List.mem_append, or_and_right, exists_or]

lemma UnionOf.allowsA2a (hunion : joined.UnionOf left right) (caller target : String) :
    joined.allowsA2a caller target =
      (left.allowsA2a caller target || right.allowsA2a caller target) := by
  rw [Bool.eq_iff_iff, Bool.or_eq_true, AgentAcl.allowsA2a_iff,
    AgentAcl.allowsA2a_iff, AgentAcl.allowsA2a_iff]
  simp only [hunion.a2a, and_or_left, exists_or]

lemma UnionOf.grantsWechat (hunion : joined.UnionOf left right) (userId backend : String) :
    joined.GrantsWechat userId backend ↔
      left.GrantsWechat userId backend ∨ right.GrantsWechat userId backend := by
  unfold AgentAcl.GrantsWechat
  rw [hunion.wechatPublic, hunion.wechatUsers]
  tauto

lemma entries_append (spec other : String) :
    entries (spec ++ "," ++ other) = entries spec ++ entries other := by
  rw [entries, splitOn_append (c := ',') (by decide), List.map_append]
  rfl

/-- The queries of a parsed allowlist agree, it depends on the set of its entries
only, and the separator joins the grants of two specifications. -/
theorem parse_algebra (spec : String) :
    (∀ caller target, (parse spec).allowsA2a caller target = true ↔
      ((parse spec).visibleTargetsForAgent caller).all (fun names => target ∈ names) = true) ∧
    (∀ other, (∀ raw, raw ∈ splitOn "," spec ↔
      raw ∈ splitOn "," other) → (parse spec).Same (parse other)) ∧
    (∀ other,
      (parse (spec ++ "," ++ other)).UnionOf (parse spec) (parse other) ∧
      (∀ caller target, (parse (spec ++ "," ++ other)).allowsA2a caller target =
        ((parse spec).allowsA2a caller target || (parse other).allowsA2a caller target)) ∧
      ∀ userId backend,
        (parse (spec ++ "," ++ other)).GrantsWechat userId backend ↔
          (parse spec).GrantsWechat userId backend ∨
            (parse other).GrantsWechat userId backend) := by
  refine ⟨fun _ _ => AgentAcl.allowsA2a_iff_all_visible, ?_, ?_⟩
  · intro other hraw
    apply (reads_parse spec).same (reads_parse other)
    intro entry
    simp [entries, hraw]
  · intro other
    have hjoined := reads_parse (spec ++ "," ++ other)
    rw [entries_append] at hjoined
    have hunion := hjoined.unionOf (reads_parse spec) (reads_parse other)
    exact ⟨hunion, hunion.allowsA2a, hunion.grantsWechat⟩

/-- An entry repeated and moved to the front. -/
theorem parse_repeated_entry : (parse "a->b,bot").Same (parse "bot,a->b,bot") := by
  have hfirst : splitOn "," "a->b,bot" = ["a->b", "bot"] := by decide
  have hsecond : splitOn "," "bot,a->b,bot" = ["bot", "a->b", "bot"] := by
    decide
  apply (parse_algebra "a->b,bot").2.1
  rw [hfirst, hsecond]
  simp only [List.mem_cons]
  tauto

lemma Reads.restricted_iff (hreads : acl.Reads read) :
    acl.Restricted ↔ ∃ entry ∈ read, entry.IsWechat := by
  have hpublic : acl.wechatPublic.isEmpty = true ↔ ∀ backend, .wechatPublic backend ∉ read := by
    simp [List.eq_nil_iff_forall_not_mem, hreads.wechatPublic]
  have husers := hreads.inhabitedUsers.isEmpty_entries_iff
  simp only [hreads.wechatUsers] at husers
  rw [AgentAcl.Restricted, Bool.and_eq_true, hpublic, husers]
  constructor
  · intro hsome
    by_contra hnone
    simp only [not_exists, not_and] at hnone
    exact hsome ⟨fun backend hmem => hnone _ hmem trivial,
      fun uid backend hmem => hnone _ hmem trivial⟩
  · rintro ⟨entry, hmem, hwechat⟩ ⟨hnoPublic, hnoUser⟩
    cases entry with
    | wechatUser uid backend => exact hnoUser uid backend hmem
    | wechatPublic backend => exact hnoPublic backend hmem
    | blank => exact hwechat
    | malformed warning => exact hwechat
    | a2a caller target => exact hwechat

/-- Fewer entries allow fewer calls. -/
lemma Reads.allowsA2a_mono (hleft : left.Reads read) (hright : right.Reads others)
    (hedges : ∀ caller target, .a2a caller target ∈ read →
      .a2a caller target ∈ others) {caller target : String}
    (hallowed : left.allowsA2a caller target = true) : right.allowsA2a caller target = true := by
  rw [AgentAcl.allowsA2a_iff] at hallowed ⊢
  obtain ⟨key, hkey, goal, hgoal, hhas⟩ := hallowed
  exact ⟨key, hkey, goal, hgoal,
    (hright.a2a key goal).mpr (hedges _ _ ((hleft.a2a key goal).mp hhas))⟩

lemma Reads.grantsWechat_mono (hleft : left.Reads read) (hright : right.Reads others)
    (hentries : ∀ entry ∈ read, entry.IsWechat → entry ∈ others)
    {userId backend : String} (hgrants : left.GrantsWechat userId backend) :
    right.GrantsWechat userId backend := by
  unfold AgentAcl.GrantsWechat at hgrants ⊢
  rw [hleft.wechatPublic, hleft.wechatUsers] at hgrants
  rw [hright.wechatPublic, hright.wechatUsers]
  exact hgrants.imp (hentries _ · trivial) (hentries _ · trivial)

/-- Users see no more than before exactly if a restriction stays a
restriction. -/
lemma clientsSeen_subset_iff (hmono : ∀ {userId backend}, left.GrantsWechat userId backend →
      right.GrantsWechat userId backend) :
    (∀ userId registered name, name ∈ left.clientsSeen userId registered →
      name ∈ right.clientsSeen userId registered) ↔
      (right.Restricted → left.Restricted) := by
  simp only [AgentAcl.mem_clientsSeen_iff]
  constructor
  · intro hsubset hright
    by_contra hleft
    obtain ⟨name, hname⟩ := right.exists_not_grantsWechat ""
    exact hname ((hsubset "" [name] name
      ⟨List.mem_singleton_self name, fun h => absurd h hleft⟩).2 hright)
  · rintro hrestricted userId registered name ⟨hmem, hseen⟩
    exact ⟨hmem, fun hright => hmono (hseen (hrestricted hright))⟩

section Malformed

variable {spec replaced entry malformed warning : String} {before after : List String}

lemma entries_eq_of_splitOn (hspec : splitOn "," spec = before ++ entry :: after) :
    entries spec = before.map .parse ++ .parse entry :: after.map .parse := by
  rw [entries, hspec, List.map_append, List.map_cons]

lemma exists_isWechat_iff {own : AclEntry} :
    (∃ kept ∈ before.map .parse ++ own :: after.map .parse, kept.IsWechat) ↔
      own.IsWechat ∨ ∃ other ∈ before ++ after, (AclEntry.parse other).IsWechat := by
  have hmem : ∀ kept, kept ∈ before.map .parse ++ own :: after.map .parse ↔
        kept = own ∨ ∃ other ∈ before ++ after, .parse other = kept := by
    intro kept
    rw [List.perm_middle.mem_iff, List.mem_cons, ← List.map_append, List.mem_map]
  constructor
  · rintro ⟨kept, hkept, hwechat⟩
    rcases (hmem kept).mp hkept with rfl | ⟨other, hother, rfl⟩
    · exact .inl hwechat
    · exact .inr ⟨other, hother, hwechat⟩
  · rintro (hwechat | ⟨other, hother, hwechat⟩)
    · exact ⟨own, (hmem own).mpr (.inl rfl), hwechat⟩
    · exact ⟨_, (hmem _).mpr (.inr ⟨other, hother, rfl⟩), hwechat⟩

/-- A malformed entry in the place of another one never allows a further agent
call.  It shows users no further client exactly if the entry it replaces is not
the only WeChat entry. -/
theorem malformed_widens_iff (hspec : splitOn "," spec = before ++ entry :: after)
    (hreplaced : splitOn "," replaced = before ++ malformed :: after)
    (hmalformed : AclEntry.parse malformed = .malformed warning) :
    (∀ caller target, (parse replaced).allowsA2a caller target = true →
      (parse spec).allowsA2a caller target = true) ∧
    ((∀ userId registered name,
      name ∈ (parse replaced).clientsSeen userId registered →
        name ∈ (parse spec).clientsSeen userId registered) ↔
      ((AclEntry.parse entry).IsWechat →
        ∃ other ∈ before ++ after, (AclEntry.parse other).IsWechat)) := by
  have hold := reads_parse spec
  have hnew := reads_parse replaced
  rw [entries_eq_of_splitOn hspec] at hold
  rw [entries_eq_of_splitOn hreplaced, hmalformed] at hnew
  -- What is left of the specification are the entries around the place.
  have hkept : ∀ kept, kept ≠ .malformed warning → kept ∈ before.map .parse ++
        .malformed warning :: after.map .parse →
      kept ∈ before.map AclEntry.parse ++ .parse entry :: after.map AclEntry.parse := by
    intro kept hne hmem
    simp only [List.mem_append, List.mem_cons, hne, false_or] at hmem ⊢
    exact hmem.imp_right .inr
  have hwechat : ∀ kept : AclEntry, kept.IsWechat → kept ≠ .malformed warning := by
    rintro kept hkept rfl
    exact hkept
  constructor
  · intro caller target hallowed
    refine hnew.allowsA2a_mono hold ?_ hallowed
    exact fun _ _ => hkept _ (by intro h; cases h)
  · rw [clientsSeen_subset_iff (hnew.grantsWechat_mono hold fun kept hmem h =>
      hkept kept (hwechat kept h) hmem), hold.restricted_iff,
      hnew.restricted_iff]
    rw [exists_isWechat_iff, exists_isWechat_iff]
    have hnot : ¬ (AclEntry.malformed warning).IsWechat := id
    rw [or_iff_right hnot, or_imp, and_iff_left id]

/-- The entry `ops->`, whose right side is missing, in the place of a second
public backend. -/
theorem malformed_beside_public :
    (AclEntry.parse "ops").IsWechat ∧
    ∀ userId registered name,
      name ∈ (parse "bot,ops->").clientsSeen userId registered →
        name ∈ (parse "bot,ops").clientsSeen userId registered := by
  have hspec : splitOn "," "bot,ops" = ["bot"] ++ "ops" :: [] := by decide
  have hreplaced : splitOn "," "bot,ops->" = ["bot"] ++ "ops->" :: [] := by
    decide
  have hmalformed : AclEntry.parse "ops->" =
      .malformed "ignoring malformed allowlist entry (empty edge side)" := by
    decide
  refine ⟨by decide, ?_⟩
  exact (malformed_widens_iff hspec hreplaced hmalformed).2.mpr fun _ => ⟨"bot", by decide⟩

/-- With the only WeChat entry mistyped, a user who saw one backend sees every
client. -/
theorem malformed_only_public :
    splitOn "," "user:alice->bot" = [] ++ "user:alice->bot" :: [] ∧
    splitOn "," "user:alice->" = [] ++ "user:alice->" :: [] ∧
    AclEntry.parse "user:alice->" =
      .malformed "ignoring malformed allowlist entry (empty edge side)" ∧
    (parse "user:alice->bot").clientsSeen "alice" ["bot", "ops"] = ["bot"] ∧
    (parse "user:alice->").clientsSeen "alice" ["bot", "ops"] = ["bot", "ops"] := by
  decide

end Malformed

end ParsedAcl

end IlinkHub
