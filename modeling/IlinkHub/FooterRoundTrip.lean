/-
The footer of a reply read back from a quote (`hub/outbound_label.rs`,
`hub/quote_route.rs`): what `parse_footer_from_quoted_text` makes of a text that
`apply_persona_and_footer_to_first_text_item` wrote.
-/
import IlinkHub.Outbound
import IlinkHub.Quote

namespace IlinkHub

open Text

/-- The session as the footer shows it. -/
def namedSession (sessionName : String) : Option String :=
  if sessionName = "default" then none else some sessionName

/-- What the parser takes for the footer line: a rule in the line itself cuts it
once more. -/
def shownLine (line : String) : String :=
  (afterLast "\n---\n" ("\n" ++ line)).getD line

/-- The parts that the parser finds in a footer line. -/
def readParts (line : String) : List String :=
  (splitOn " · " (trim (shownLine line))).map trim

/-- The parts that stand in the footer line. -/
def writtenParts (name : String) (label : Option String) (sessionName : String) : List String :=
  name :: (((label.bind trimmedNonBlank).filter fun l => l ≠ name).toList ++
    (namedSession sessionName).toList)

/-- No separator is in the footer but those between its parts. -/
def Plain (part : String) : Prop :=
  '\n' ∉ part.toList ∧ '·' ∉ part.toList
deriving Decidable

section Reading

variable {line : String}

/-- Nothing in front of the rule matters. -/
lemma footerLine_append (body : String) :
    footerLine (body ++ "\n\n---\n" ++ line) =
      some (trim (shownLine line)) := by
  have hpat : "\n---\n".toList = ['\n', '-', '-', '-', '\n'] := rfl
  have hrule : afterLast.go "\n---\n" ("\n---\n".toList ++ line.toList) =
      (afterLast.go "\n---\n" ('\n' :: line.toList)).or
        (some line.toList) := by
    have hdash : ∀ rest, ('-' :: rest).dropPrefix? "\n---\n".toList = none := fun _ => rfl
    have hhere : ('\n' :: '-' :: '-' :: '-' :: '\n' :: line.toList).dropPrefix?
        "\n---\n".toList = some line.toList := by
      simp [List.dropPrefix?]
    simp only [hpat, List.cons_append, List.nil_append]
    rw [afterLast.go, afterLast.go, afterLast.go,
      afterLast.go, hdash, hdash, hdash, hhere, Option.or_none,
      Option.or_none, Option.or_none]
  have hsome : (afterLast.go "\n---\n" ("\n---\n".toList ++ line.toList)).isSome = true := by
    rw [hrule, Option.isSome_or, Option.isSome_some, Bool.or_true]
  have htext : (body ++ "\n\n---\n" ++ line).toList =
      (body.toList ++ ['\n']) ++ ("\n---\n".toList ++ line.toList) := by
    simp
  have hlast : afterLast "\n---\n" (body ++ "\n\n---\n" ++ line) = some (shownLine line) := by
    rw [afterLast, htext, afterLast_go_append hsome, hrule, shownLine, afterLast]
    cases hcut : afterLast.go "\n---\n" ('\n' :: line.toList) with
    | none => simp [hcut]
    | some rest => simp [hcut]
  rw [footerLine, hlast, Option.some_or, Option.map_some]

lemma readParts_ne_nil (line : String) : readParts line ≠ [] := by
  rw [readParts, splitOn]
  simpa using splitOn_go_ne_nil 0 [] (trim (shownLine line)).toList

lemma trim_of_head?_readParts {part : String}
    (hpart : (readParts line).head? = some part) : trim part = part := by
  obtain ⟨raw, -, rfl⟩ := List.mem_map.mp (List.mem_of_head? hpart)
  exact trim_trim raw

/-- The first part is the name, the last one that looks like a session is the
session. -/
lemma parseFooterFromQuotedText_append_eq_some_iff {body name : String}
    (hname : name ≠ "") {sessionName : Option String} :
    parseFooterFromQuotedText (body ++ "\n\n---\n" ++ line) =
        some (name, sessionName) ↔
      (readParts line).head? = some name ∧
        (readParts line).reverse.find? looksLikeSession = sessionName := by
  obtain ⟨first, rest, hparts⟩ :=
    List.exists_cons_of_ne_nil (readParts_ne_nil line)
  rw [parseFooterFromQuotedText, footerLine_append]
  by_cases hline : trim (shownLine line) = ""
  · -- then there is one part, and it is blank
    have hfirst : first = "" := by
      rw [readParts, hline] at hparts
      exact (List.cons.inj hparts).1.symm
    rw [hline, hparts, hfirst, Option.filter_some_neg (by decide)]
    simp [hname.symm]
  · rw [Option.filter_some_pos (by simpa using hline), Option.bind_some]
    simp only
    rw [← readParts, hparts, List.head?_cons, Option.getD_some, Option.some.injEq]
    split
    · next hblank => simp [hblank, hname.symm]
    · rw [Option.some.injEq, Prod.mk.injEq]

end Reading

section Writing

variable {name sessionName : String} {label : Option String}

lemma formatOutboundFooter_eq_intercalate
    (hsession : trim sessionName = sessionName) (hne : sessionName ≠ "") :
    formatOutboundFooter name label (some sessionName) =
      " · ".intercalate (writtenParts name label sessionName) := by
  have hshown : buildSessionOnlyFooter (some sessionName) = namedSession sessionName := by
    rw [buildSessionOnlyFooter, Option.bind_some, trimmedNonBlank, isBlank,
      hsession, if_neg (by simpa using hne), namedSession]
    split
    · next hdefault => exact Option.filter_some_neg (by simpa using hdefault)
    · next hnamed => exact Option.filter_some_pos (by simpa using hnamed)
  rw [formatOutboundFooter, hshown, formatOutboundOriginLine, writtenParts]
  cases (label.bind trimmedNonBlank).filter fun l => l ≠ name with
  | none => 
    cases namedSession sessionName <;> rfl
  | some l => 
    cases namedSession sessionName <;> rfl

lemma shownLine_eq_self {line : String} (hline : '\n' ∉ line.toList) : shownLine line = line := by
  have hnone : afterLast "\n---\n" ("\n" ++ line) = none := by
    rw [afterLast_eq_none_iff]
    intro hrule
    have hcount := hrule.sublist.count_le '\n'
    rw [String.toList_append, List.count_append, List.count_eq_zero_of_not_mem hline] at hcount
    exact absurd hcount (by decide)
  rw [shownLine, hnone, Option.getD_none]

/-- Parts without a separator in them are read as they were written. -/
lemma readParts_intercalate {parts : List String} (hparts : parts ≠ [])
    (htrim : ∀ part ∈ parts, trim part = part ∧ part ≠ "")
    (hline : ∀ part ∈ parts, '\n' ∉ part.toList) (hdot : ∀ part ∈ parts, '·' ∉ part.toList) :
    readParts (" · ".intercalate parts) = parts := by
  have hshown := shownLine_eq_self (notMem_intercalate (by decide : '\n' ∉ " · ".toList) hline)
  have hsplit := splitOn_intercalate
    (rfl : " · ".toList = ' ' :: '·' :: [' ']) (by decide) hparts hdot
  rw [readParts, hshown, (trim_intercalate hparts htrim).1, hsplit]
  calc parts.map trim = parts.map id :=
        List.map_congr_left fun part hpart => (htrim part hpart).1
    _ = parts := List.map_id parts

/-- A label or a name is taken for the session where none is named. -/
theorem find?_writtenParts_iff
    (hsession : sessionName = "default" ∨ looksLikeSession sessionName = true) :
    (writtenParts name label sessionName).reverse.find? looksLikeSession =
        namedSession sessionName ↔
      sessionName ≠ "default" ∨ (looksLikeSession name = false ∧
          ∀ l, label.bind trimmedNonBlank = some l → looksLikeSession l = false) := by
  by_cases hdefault : sessionName = "default"
  · have hnone : namedSession sessionName = none := if_pos hdefault
    rw [writtenParts, hnone, Option.toList_none, List.append_nil, List.find?_eq_none]
    simp only [List.mem_reverse, List.mem_cons, Option.mem_toList,
      Option.filter_eq_some_iff, hdefault, ne_eq, not_true_eq_false, false_or,
      forall_eq_or_imp, Bool.not_eq_true, and_imp]
    constructor
    · rintro ⟨hname, hlabel⟩
      refine ⟨hname, ?_⟩
      intro l hl
      by_cases hsame : l = name
      · exact hsame ▸ hname
      · exact hlabel l hl (by simpa using hsame)
    · rintro ⟨hname, hlabel⟩
      exact ⟨hname, fun l hl _ => hlabel l hl⟩
  · have hlooks := hsession.resolve_left hdefault
    have hsome : namedSession sessionName = some sessionName := if_neg hdefault
    rw [writtenParts, hsome, Option.toList_some, ← List.cons_append,
      List.reverse_append, List.reverse_singleton, List.singleton_append,
      List.find?_cons_of_pos hlooks]
    exact iff_of_true rfl (.inl hdefault)

lemma of_mem_writtenParts {part : String} (hpart : part ∈ writtenParts name label sessionName) :
    part = name ∨ label.bind trimmedNonBlank = some part ∨ part = sessionName := by
  rw [writtenParts, List.mem_cons, List.mem_append, Option.mem_toList, Option.mem_toList] at hpart
  rcases hpart with hname | hlabel | hsession
  · exact .inl hname
  · exact .inr (.inl (Option.filter_eq_some_iff.mp hlabel).1)
  · rw [namedSession] at hsession
    split at hsession
    · cases hsession
    · exact .inr (.inr (Option.some.inj hsession).symm)

lemma trim_of_bind_trimmedNonBlank {l : String} (hl : label.bind trimmedNonBlank = some l) :
    trim l = l ∧ l ≠ "" := by
  obtain ⟨raw, -, hraw⟩ := Option.bind_eq_some_iff.mp hl
  refine ⟨?_, (trimmedNonBlank_of_eq_some hraw).2⟩
  rw [trimmedNonBlank] at hraw
  split at hraw
  · cases hraw
  · cases hraw
    exact trim_trim raw

/-- The footer of a trimmed name is read as it was written. -/
lemma readParts_formatOutboundFooter (hname : trim name = name)
    (hnameNe : name ≠ "") (hsession : trim sessionName = sessionName)
    (hsessionNe : sessionName ≠ "") (hplainName : Plain name) (hplainSession : Plain sessionName)
    (hplainLabel : ∀ l, label.bind trimmedNonBlank = some l → Plain l) :
    readParts (formatOutboundFooter name label (some sessionName)) =
      writtenParts name label sessionName := by
  have hplain : ∀ part ∈ writtenParts name label sessionName, Plain part := by
    intro part hpart
    rcases of_mem_writtenParts hpart with rfl | hlabel | rfl
    · exact hplainName
    · exact hplainLabel part hlabel
    · exact hplainSession
  rw [formatOutboundFooter_eq_intercalate hsession hsessionNe]
  apply readParts_intercalate (List.cons_ne_nil _ _)
  · intro part hpart
    rcases of_mem_writtenParts hpart with rfl | hlabel | rfl
    · exact ⟨hname, hnameNe⟩
    · exact trim_of_bind_trimmedNonBlank hlabel
    · exact ⟨hsession, hsessionNe⟩
  · exact fun part hpart => (hplain part hpart).1
  · exact fun part hpart => (hplain part hpart).2

end Writing

section RoundTrip

/-- The reply tells its backend and its session. -/
def ReadBack (msg : WeixinMessage) (client : ClientInfo) (sessionName : String) : Prop :=
  (applyPersonaAndFooterToFirstTextItem msg client
      (some sessionName)).text.bind parseFooterFromQuotedText =
    some (client.name, namedSession sessionName)

variable {msg : WeixinMessage} {client : ClientInfo} {first : MessageItem}
  {rest : List MessageItem} {body sessionName : String}

lemma text_of_noPersona (hitems : msg.itemList = some (first :: rest))
    (hbody : first.textItem.bind TextItem.text = some body)
    (hpersona : client.personaName.bind trimmedNonBlank = none) :
    (applyPersonaAndFooterToFirstTextItem msg client (some sessionName)).text =
      some (body ++ "\n\n---\n" ++
        formatOutboundFooter client.name client.label (some sessionName)) := by
  simp [applyPersonaAndFooterToFirstTextItem, hitems, hbody, personaAndFooter,
    buildPersonaHeader, hpersona, WeixinMessage.text]

/-- The footer is read back whatever the body is: exactly if its first part is
the name, and its last part that looks like a session is the session.  Without
separators in the parts this is so for a trimmed name, unless there is no named
session and the name or the label looks like one. -/
theorem readBack_iff (hitems : msg.itemList = some (first :: rest))
    (hbody : first.textItem.bind TextItem.text = some body)
    (hpersona : client.personaName.bind trimmedNonBlank = none)
    (hname : isBlank client.name = false)
    (hsession : sessionName = "default" ∨ looksLikeSession sessionName = true)
    (htrim : trim sessionName = sessionName) :
    (ReadBack msg client sessionName ↔ (readParts (formatOutboundFooter client.name client.label
          (some sessionName))).head? = some client.name ∧
        (readParts (formatOutboundFooter client.name client.label
          (some sessionName))).reverse.find? looksLikeSession = namedSession sessionName) ∧
      (Plain client.name → Plain sessionName →
        (∀ l, client.label.bind trimmedNonBlank = some l → Plain l) →
          (ReadBack msg client sessionName ↔ trim client.name = client.name ∧
              (sessionName ≠ "default" ∨ (looksLikeSession client.name = false ∧
                  ∀ l, client.label.bind trimmedNonBlank = some l →
                    looksLikeSession l = false)))) := by
  have hnameNe : client.name ≠ "" := by
    rintro hempty
    rw [hempty] at hname
    exact absurd hname (by decide)
  have hsessionNe : sessionName ≠ "" := by
    rintro rfl
    exact absurd hsession (by decide)
  have hread : ReadBack msg client sessionName ↔
      (readParts (formatOutboundFooter client.name client.label
          (some sessionName))).head? = some client.name ∧
        (readParts (formatOutboundFooter client.name client.label
          (some sessionName))).reverse.find? looksLikeSession =
            namedSession sessionName := by
    rw [ReadBack, text_of_noPersona hitems hbody hpersona, Option.bind_some,
      parseFooterFromQuotedText_append_eq_some_iff hnameNe]
  refine ⟨hread, ?_⟩
  intro hplainName hplainSession hplainLabel
  have hwritten (htrimName : trim client.name = client.name) :=
    readParts_formatOutboundFooter htrimName hnameNe htrim hsessionNe hplainName
      hplainSession hplainLabel
  rw [hread]
  constructor
  · rintro ⟨hhead, hfind⟩
    have htrimName := trim_of_head?_readParts hhead
    rw [hwritten htrimName] at hfind
    exact ⟨htrimName, (find?_writtenParts_iff hsession).mp hfind⟩
  · rintro ⟨htrimName, hunlike⟩
    rw [hwritten htrimName]
    exact ⟨rfl, (find?_writtenParts_iff hsession).mpr hunlike⟩

end RoundTrip

/-- A reply `done`. -/
def Sample.doneReply : WeixinMessage :=
  { itemList := some [{ itemType := some 1, textItem := some ⟨some "done"⟩ }] }

def Sample.labelled (label : String) : ClientInfo :=
  { name := "claude", vtoken := "h1", label := some label }

open Sample in
/-- With a named session the label does not matter. -/
theorem readBack_at_home :
    looksLikeSession "at-home" = true ∧ ReadBack doneReply (labelled "at-home") "at-work" := by
  have hlabel : ∀ l, (some "at-home").bind trimmedNonBlank = some l →
      Plain l := by
    intro l hl
    obtain rfl := Option.some.inj hl
    decide
  have hpersona : (labelled "at-home").personaName.bind trimmedNonBlank =
      none := rfl
  have hsession : looksLikeSession "at-work" = true := by decide
  refine ⟨by decide, ?_⟩
  apply ((readBack_iff rfl rfl hpersona (by decide) (.inr hsession)
    (by decide)).2 (by decide) (by decide) hlabel).mpr
  exact ⟨by decide, .inl (by decide)⟩

open Sample in
/-- The label is taken for the session. -/
theorem not_readBack_at_home :
    (applyPersonaAndFooterToFirstTextItem doneReply (labelled "at-home")
        (some "default")).text = some "done\n\n---\nclaude · at-home" ∧
      parseFooterFromQuotedText "done\n\n---\nclaude · at-home" =
        some ("claude", some "at-home") ∧
      ¬ ReadBack doneReply (labelled "at-home") "default" := by
  unfold ReadBack
  decide

end IlinkHub
