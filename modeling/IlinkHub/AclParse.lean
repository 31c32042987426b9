/-
The parser of the agent allowlist (`hub/acl.rs`).  A specification is a list of
entries separated by commas; what a parsed allowlist grants is determined by the
set of its entries.
-/
import IlinkHub.Multimap
import IlinkHub.Registry

namespace IlinkHub

open Multimap Text

/-- What the parser makes of one entry.  A malformed entry carries the warning
that is logged for it. -/
inductive AclEntry where
  | blank
  | malformed (warning : String)
  | a2a (caller target : String)
  | wechatUser (uid backend : String)
  | wechatPublic (backend : String)
deriving Repr, DecidableEq

namespace AclEntry

def parse (raw : String) : AclEntry :=
  let entry := trim raw
  if entry = "" then
    .blank
  else
    match splitOnce "->" entry with
    | some (left, right) =>
      let lhs := trim left
      let rhs := trim right
      if lhs = "" ∨ rhs = "" then
        .malformed "ignoring malformed allowlist entry (empty edge side)"
      else
        match stripPrefix "user:" lhs with
        | some rest =>
          let uid := trim rest
          if uid = "" ∨ uid = AgentAcl.wildcard ∨ rhs = AgentAcl.wildcard then
            .malformed "ignoring malformed allowlist entry (bad WeChat user edge)"
          else
            .wechatUser uid rhs
        | none => .a2a lhs rhs
    | none =>
      if entry = AgentAcl.wildcard then
        .a2a AgentAcl.wildcard AgentAcl.wildcard
      else if startsWith "user:" entry then
        .malformed "ignoring malformed allowlist entry (WeChat entry needs `->backend`)"
      else
        .wechatPublic entry

/-- An entry that restricts what WeChat users see. -/
def IsWechat : AclEntry → Prop
  | .wechatUser _ _ | .wechatPublic _ => True
  | _ => False

instance : DecidablePred IsWechat
  | .wechatUser _ _ | .wechatPublic _ => .isTrue trivial
  | .blank | .malformed _ | .a2a _ _ => .isFalse id

end AclEntry

/-- The allowlist with the note that the specification had an entry, even one
that grants nothing. -/
structure ParsedAcl extends AgentAcl where
  specPresent : Bool

namespace ParsedAcl

def default : ParsedAcl :=
  ⟨⟨∅, ∅, []⟩, false⟩

/-- The body of the parser's loop after the entry is read. -/
def add (acl : ParsedAcl) : AclEntry → ParsedAcl
  | .blank => acl
  | .malformed _ => { acl with specPresent := true }
  | .a2a caller target =>
    { acl with
      a2a := insert caller target acl.a2a
      specPresent := true }
  | .wechatUser uid backend =>
    { acl with
      wechatUsers := insert uid backend acl.wechatUsers
      specPresent := true }
  | .wechatPublic backend =>
    { acl with
      wechatPublic := acl.wechatPublic.insert backend
      specPresent := true }

def entries (spec : String) : List AclEntry :=
  (splitOn "," spec).map AclEntry.parse

def parse (spec : String) : ParsedAcl :=
  (entries spec).foldl add default

/-- Equality of the maps and sets of two allowlists. -/
structure Same (left right : ParsedAcl) : Prop where
  a2a : Multimap.Same left.a2a right.a2a
  wechatUsers : Multimap.Same left.wechatUsers right.wechatUsers
  wechatPublic : left.wechatPublic.toFinset = right.wechatPublic.toFinset
  specPresent : left.specPresent = right.specPresent

/-- The allowlist holds what these entries grant, and nothing else. -/
structure Reads (acl : ParsedAcl) (entries : List AclEntry) : Prop where
  a2a : ∀ caller target, Multimap.Has acl.a2a caller target ↔ .a2a caller target ∈ entries
  wechatUsers : ∀ uid backend,
    Multimap.Has acl.wechatUsers uid backend ↔ .wechatUser uid backend ∈ entries
  wechatPublic : ∀ backend, backend ∈ acl.wechatPublic ↔ .wechatPublic backend ∈ entries
  specPresent : acl.specPresent = true ↔ ∃ entry ∈ entries, entry ≠ .blank
  inhabitedA2a : Multimap.Inhabited acl.a2a
  inhabitedUsers : Multimap.Inhabited acl.wechatUsers

lemma reads_default : default.Reads [] := by
  constructor <;> simp [default, Multimap.Has, Multimap.Inhabited]

/-- One turn of the parser's loop. -/
lemma Reads.add {acl : ParsedAcl} {read : List AclEntry} (hreads : acl.Reads read)
    (entry : AclEntry) : (acl.add entry).Reads (read ++ [entry]) := by
  obtain ⟨ha2a, husers, hpublic, hpresent, hedges, hinhabited⟩ := hreads
  cases entry with
  | blank =>
    constructor <;>
      simp [ParsedAcl.add, ha2a, husers, hpublic, hpresent, hedges, hinhabited]
  | malformed warning =>
    constructor <;>
      simp [ParsedAcl.add, ha2a, husers, hpublic, hedges, hinhabited]
  | a2a caller target =>
    constructor <;>
      simp [ParsedAcl.add, has_insert, ha2a, husers, hpublic,
        inhabited_insert hedges, hinhabited, or_comm]
  | wechatUser uid backend =>
    constructor <;>
      simp [ParsedAcl.add, has_insert, ha2a, husers, hpublic,
        inhabited_insert hinhabited, hedges, or_comm]
  | wechatPublic backend =>
    constructor <;>
      simp [ParsedAcl.add, ha2a, husers, hpublic, hedges, hinhabited, or_comm]

lemma Reads.foldl_add {acl : ParsedAcl} {read : List AclEntry} (hreads : acl.Reads read)
    (rest : List AclEntry) : (rest.foldl .add acl).Reads (read ++ rest) := by
  induction rest generalizing acl read with
  | nil => simpa using hreads
  | cons entry rest ih => simpa using ih (hreads.add entry)

lemma reads_parse (spec : String) : (parse spec).Reads (entries spec) :=
  reads_default.foldl_add (entries spec)

end ParsedAcl

end IlinkHub
