/-
The mentions in a text (`parse_at_mention` of `hub/router.rs`): where the name of
a backend ends, and which names can be mentioned.
-/
import Mathlib.Data.Bool.AllAny
import IlinkHub.Router

namespace IlinkHub

open Text

/-- Where the name at the beginning of a text ends. -/
def mentionEnds (rest : List Char) (c : Char) : Bool :=
  isWhitespace c || (rest.head?.any fun first => first.toNat < 128) && 128 ≤ c.toNat

section Mention

variable {blank rest : List Char} {name message payload text : String}

/-- Behind the sign the text is cut where the name ends. -/
lemma parseAtMention_append (hblank : ∀ c ∈ blank, isWhitespace c = true) :
    parseAtMention (String.ofList (blank ++ '@' :: rest)) =
      let parts := cutAt (mentionEnds rest) (String.ofList rest)
      if trim parts.1 = "" then none
      else some (trim parts.1, trim parts.2) := by
  have hsign : stripPrefix "@" (String.ofList ('@' :: rest)) = some (String.ofList rest) :=
    stripPrefix_eq_some_iff.mpr (@String.ofList_append ['@'] rest)
  rw [parseAtMention, trimStart_append_cons hblank (by decide), hsign, Option.bind_some]
  simp only [String.toList_ofList]
  have hends : mentionEnds rest =
      if (rest.head?.any fun c => c.toNat < 128) = true then
        fun c => isWhitespace c || 128 ≤ c.toNat
      else isWhitespace := by
    funext c
    unfold mentionEnds
    split
    · next hascii => rw [hascii, Bool.true_and]
    · next hother =>
      rw [Bool.eq_false_of_not_eq_true hother, Bool.false_and, Bool.or_false]
  rw [hends]
  split <;> rfl

lemma mentionEnds_name_iff (hne : name ≠ "") (hspace : ∀ c ∈ name.toList, isWhitespace c = false)
    (rest : List Char) :
    (∀ c ∈ name.toList, mentionEnds (name.toList ++ rest) c = false) ↔
      (∀ c ∈ name.toList, c.toNat < 128) ∨ ∃ c, name.toList.head? = some c ∧ 128 ≤ c.toNat := by
  have hchars : name.toList ≠ [] := by simpa using hne
  obtain ⟨first, others, hname⟩ := List.exists_cons_of_ne_nil hchars
  have hends : ∀ c ∈ name.toList,
      (mentionEnds (name.toList ++ rest) c = false ↔ (first.toNat < 128 → c.toNat < 128)) := by
    intro c hc
    simp [mentionEnds, hspace c hc, hname]
  constructor
  · intro hnone
    by_cases hfirst : first.toNat < 128
    · exact .inl fun c hc => (hends c hc).mp (hnone c hc) hfirst
    · exact .inr ⟨first, by rw [hname, List.head?_cons], by omega⟩
  · rintro (hascii | ⟨c, hc, hlarge⟩) d hd
    · exact (hends d hd).mpr fun _ => hascii d hd
    · rw [hname, List.head?_cons, Option.some.injEq] at hc
      subst hc
      exact (hends d hd).mpr fun hsmall => by omega

/-- A backend is mentioned by its name exactly if the name is in ASCII, or does
not begin in it. -/
theorem parseAtMention_name_iff {blank : String}
    (hblank : ∀ c ∈ blank.toList, isWhitespace c = true) (hne : name ≠ "")
    (hspace : ∀ c ∈ name.toList, isWhitespace c = false) :
    parseAtMention (blank ++ "@" ++ name ++ " " ++ message) = some (name, trim message) ↔
      (∀ c ∈ name.toList, c.toNat < 128) ∨ ∃ c, name.toList.head? = some c ∧ 128 ≤ c.toNat := by
  have htext : blank ++ "@" ++ name ++ " " ++ message = String.ofList
      (blank.toList ++ '@' :: (name.toList ++ ' ' :: message.toList)) := by
    rw [← String.toList_inj]
    simp
  rw [← mentionEnds_name_iff hne hspace (' ' :: message.toList), htext,
    parseAtMention_append hblank]
  constructor
  · intro hparsed c hc
    simp only at hparsed
    split at hparsed
    · cases hparsed
    · -- the name is a part of what is in front of the cut
      obtain ⟨hname, -⟩ := Prod.mk.inj (Option.some.inj hparsed)
      rw [← hname] at hc
      exact of_mem_cutAt (mem_of_mem_trim hc)
  · intro hends
    rw [cutAt_append_cons hends (by simp [mentionEnds]; decide)]
    simp only
    rw [String.ofList_toList, trim_eq_self hspace, if_neg hne,
      trim_cons_of_isWhitespace (by decide), String.ofList_toList]

theorem parseAtMention_of_chinese :
    parseAtMention (" " ++ "@" ++ "后端" ++ " " ++ "hi") = some ("后端", trim "hi") :=
  (parseAtMention_name_iff (List.all_iff_forall_prop.mp (by decide)) (by decide)
    (List.all_iff_forall_prop.mp (by decide))).mpr (.inr ⟨'后', by decide, by decide⟩)

/-- The name begins in ASCII, so it ends where the ASCII does. -/
theorem parseAtMention_of_mixed :
    ("bot后端".toList.all fun c => !isWhitespace c) = true ∧
      parseAtMention ("" ++ "@" ++ "bot后端" ++ " " ++ "hi") = some ("bot", "后端 hi") ∧
      parseAtMention ("" ++ "@" ++ "bot后端" ++ " " ++ "hi") ≠ some ("bot后端", trim "hi") := by
  decide

lemma length_lt_of_parseAtMention (hparsed : parseAtMention text = some (name, payload)) :
    payload.toList.length < text.toList.length := by
  obtain ⟨rest, hrest, hparts⟩ := Option.bind_eq_some_iff.mp hparsed
  have hlonger : rest.toList.length < (trimStart text).toList.length := by
    rw [stripPrefix_eq_some_iff.mp hrest, String.toList_append, List.length_append]
    exact Nat.lt_add_of_pos_left (by decide)
  have hcut : ∀ parts : String × String,
      parts.1.toList ++ parts.2.toList = rest.toList → (if trim parts.1 = "" then none
          else some (trim parts.1, trim parts.2)) = some (name, payload) →
          payload.toList.length ≤ rest.toList.length := by
    intro parts hjoined hname
    split at hname
    · cases hname
    · obtain ⟨-, rfl⟩ := Prod.mk.inj (Option.some.inj hname)
      rw [← hjoined, List.length_append]
      exact (length_trim_le _).trans (Nat.le_add_left _ _)
  have hpayload : payload.toList.length ≤ rest.toList.length := by
    refine hcut _ ?_ hparts
    split
    · exact toList_cutAt _ rest
    · exact toList_cutAt _ rest
  exact hpayload.trans_lt (hlonger.trans_le (length_trimStart_le text))

end Mention

section Broadcast

lemma of_parseHubCommand_broadcast {freshName text cast : String}
    (hparsed : parseHubCommand freshName text = some (.broadcast cast)) :
    ∃ rest, stripAny ["/broadcast ", "/all "] (trim text) = some rest ∧
      cast = trim rest := by
  unfold parseHubCommand at hparsed
  simp only at hparsed
  -- the commands in front of it in the order of the parser
  iterate 4
    split at hparsed
    · cases hparsed
  split at hparsed
  · next rest hrest =>
    obtain rfl := HubCommand.broadcast.inj (Option.some.inj hparsed)
    exact ⟨rest, hrest, rfl⟩
  -- and those behind
  iterate 4
    split at hparsed
    · cases hparsed
  cases hparsed

lemma length_lt_of_parseHubCommand_broadcast {freshName text cast : String}
    (hparsed : parseHubCommand freshName text = some (.broadcast cast)) :
    cast.toList.length < text.toList.length := by
  obtain ⟨rest, hrest, rfl⟩ := of_parseHubCommand_broadcast hparsed
  obtain ⟨pat, hpat, hstrip⟩ := List.exists_of_findSome?_eq_some hrest
  have hpos : 0 < pat.toList.length := by
    simp only [List.mem_cons, List.not_mem_nil, or_false] at hpat
    rcases hpat with rfl | rfl <;> decide
  have hlonger : rest.toList.length < (trim text).toList.length := by
    rw [stripPrefix_eq_some_iff.mp hstrip, String.toList_append, List.length_append]
    exact Nat.lt_add_of_pos_left hpos
  exact (length_trim_le rest).trans_lt (hlonger.trans_le (length_trim_le text))

end Broadcast

end IlinkHub
