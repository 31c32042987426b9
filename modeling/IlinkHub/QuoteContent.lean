/-
The lookup of a quoted reply by its content (`find_assistant_message_by_content`
of `store/messages.rs`, `resolve_quote_from_db` of `hub/dispatch/quote.rs`): the
`LIKE` pattern that is built from the beginning of the quote, and which replies
are found by it.
-/
import IlinkHub.QuoteRouting
import IlinkHub.SqlLike

namespace IlinkHub

open Text SqlLike Query

/-- The pattern of the query: the three signs are escaped, the escape sign
first. -/
def contentPattern (contentPrefix : String) : String :=
  replaceChar '_' "\\_" (replaceChar '%' "\\%" (replaceChar '\\' "\\\\" contentPrefix)) ++ "%"

/-- The signs of `LIKE .. ESCAPE '\'`. -/
def likeSigns : SqlLike.Signs Char :=
  ⟨'%', '_', '\\'⟩

section Pattern

/-- The replacements do not get into each other's way. -/
lemma toList_contentPattern (contentPrefix : String) :
    (contentPattern contentPrefix).toList =
      contentPrefix.toList.flatMap (SqlLike.escaped likeSigns) ++ [likeSigns.any] := by
  have hescaped : (replaceChar '_' "\\_" (replaceChar '%' "\\%"
      (replaceChar '\\' "\\\\" contentPrefix))).toList =
        contentPrefix.toList.flatMap (SqlLike.escaped likeSigns) := by
    simp only [replaceChar, String.toList_ofList, List.flatMap_assoc]
    apply List.flatMap_congr
    intro c _
    by_cases hescape : c = '\\'
    · subst hescape
      decide
    · by_cases hany : c = '%'
      · subst hany
        decide
      · by_cases hone : c = '_'
        · subst hone
          decide
        · simp [SqlLike.escaped, likeSigns, hescape, hany, hone]
  rw [contentPattern, String.toList_append, hescaped]
  rfl

lemma like_toList_contentPattern_iff {same : Char → Char → Bool}
    {contentPrefix : String} {text : List Char} :
    like likeSigns same (contentPattern contentPrefix).toList text = true ↔
      ∃ front rest, text = front ++ rest ∧ List.Forall₂ (fun left right => same left right = true)
          contentPrefix.toList front := by
  rw [toList_contentPattern]
  exact like_escaped_any_iff (by decide)

/-- The pattern asks for the beginning of the text, up to how `LIKE` compares
characters. -/
theorem like_contentPattern_iff (same : Char → Char → Bool) (contentPrefix content : String) :
    like likeSigns same (contentPattern contentPrefix).toList content.toList = true ↔
      ∃ front rest, content = front ++ rest ∧
        List.Forall₂ (fun left right => same left right = true)
          contentPrefix.toList front.toList := by
  rw [like_toList_contentPattern_iff]
  constructor
  · rintro ⟨front, rest, htext, hsame⟩
    refine ⟨String.ofList front, String.ofList rest, ?_, ?_⟩
    · rw [← String.ofList_append, ← htext, String.ofList_toList]
    · rw [String.toList_ofList]
      exact hsame
  · rintro ⟨front, rest, rfl, hsame⟩
    exact ⟨front.toList, rest.toList, String.toList_append, hsame⟩

end Pattern

section Lookup

/-- What the history is asked for: the beginning of the quote. -/
def quotedPrefix (quotedText : String) : String :=
  String.ofList ((trim quotedText).toList.take 48)

/-- The replies that the query may answer with. -/
def matchingRows (kind : DatabaseKind) (messages : List MessageRow)
    (scope quotedText : String) : List MessageRow :=
  messages.filter fun row => row.peerUserId = scope ∧
    kind.likeStartsWith (quotedPrefix quotedText) row.content = true

/-- No reply of the list is newer. -/
def Newest (rows : List MessageRow) (row : MessageRow) : Prop :=
  row ∈ rows ∧ ∀ other ∈ rows, other.createdAt ≤ row.createdAt

/-- The backend wrote a reply in the conversation that begins as the quote
does. -/
def Wrote (messages : List MessageRow) (scope quotedText vtoken : String) : Prop :=
  ∃ row ∈ messages, row.peerUserId = scope ∧ row.vtoken = some vtoken ∧
    startsWith (toAsciiLowercase (quotedPrefix quotedText))
      (toAsciiLowercase (trimStart row.content)) = true

variable {quotedText : String} {kind : DatabaseKind} {row : MessageRow} {messages : List MessageRow}

/-- A quote with text in it begins with something that is no blank. -/
lemma exists_toList_quotedPrefix (hquoted : isBlank quotedText = false) :
    ∃ c rest, (quotedPrefix quotedText).toList = c :: rest ∧ isWhitespace c = false := by
  have hne : (trim quotedText).toList ≠ [] := by
    simpa [isBlank] using hquoted
  obtain ⟨c, rest, hchars⟩ := List.exists_cons_of_ne_nil hne
  refine ⟨c, rest.take 47, ?_, ?_⟩
  · rw [quotedPrefix, String.toList_ofList, hchars]
    rfl
  · apply (trim_eq_self_iff.mp (trim_trim quotedText)).1
    rw [hchars, List.head?_cons]

/-- Sqlite's `LIKE` ignores ASCII case. -/
def DatabaseKind.fold : DatabaseKind → Char → Char
  | .sqlite => Char.toLower
  | .postgres => id

lemma DatabaseKind.likeStartsWith_iff {contentPrefix content : String} :
    kind.likeStartsWith contentPrefix content = true ↔
      contentPrefix.toList.map kind.fold <+: content.toList.map kind.fold := by
  cases kind with
  | sqlite =>
    rw [likeStartsWith, startsWith_iff, toList_toAsciiLowercase, toList_toAsciiLowercase, fold]
  | postgres => rw [likeStartsWith, startsWith_iff, fold, List.map_id, List.map_id]

/-- What the lookup asks is the `LIKE` of the query. -/
theorem DatabaseKind.likeStartsWith_eq_like (kind : DatabaseKind) (contentPrefix content : String) :
    kind.likeStartsWith contentPrefix content =
      like likeSigns (fun sign c => kind.fold sign == kind.fold c)
        (contentPattern contentPrefix).toList content.toList := by
  rw [Bool.eq_iff_iff, likeStartsWith_iff, toList_contentPattern, like_escaped_fold_iff (by decide)]

lemma DatabaseKind.startsWith_of_likeStartsWith {contentPrefix content : String}
    (hlike : kind.likeStartsWith contentPrefix content = true) :
    startsWith (toAsciiLowercase contentPrefix) (toAsciiLowercase content) = true := by
  cases kind with
  | sqlite => exact hlike
  | postgres =>
    rw [startsWith_iff, toList_toAsciiLowercase, toList_toAsciiLowercase]
    exact (startsWith_iff.mp hlike).map Char.toLower

/-- A reply that is found does not begin with a blank, as the quote does
not. -/
lemma trimStart_eq_self_of_likeStartsWith
    {content : String} (hquoted : isBlank quotedText = false)
    (hlike : kind.likeStartsWith (quotedPrefix quotedText) content = true) :
    trimStart content = content := by
  obtain ⟨c, rest, hchars, hblank⟩ := exists_toList_quotedPrefix hquoted
  have hlower := startsWith_iff.mp (DatabaseKind.startsWith_of_likeStartsWith hlike)
  rw [toList_toAsciiLowercase, toList_toAsciiLowercase, hchars, List.map_cons] at hlower
  cases hcontent : content.toList with
  | nil =>
    rw [hcontent] at hlower
    exact absurd hlower (by simp)
  | cons d others =>
    rw [hcontent, List.map_cons, List.cons_prefix_cons] at hlower
    have hd : isWhitespace d = false := by
      rw [← isWhitespace_toLower d, ← hlower.1, isWhitespace_toLower c, hblank]
    rw [trimStart, hcontent, List.dropWhile_cons_of_neg (by simp [hd]),
      ← hcontent, String.ofList_toList]

/-- The own content of a reply matches unless it begins with a blank. -/
lemma likeStartsWith_self_iff {content : String} (hblank : isBlank content = false) :
    kind.likeStartsWith (quotedPrefix content) content = true ↔ trimStart content = content := by
  constructor
  · exact trimStart_eq_self_of_likeStartsWith hblank
  · intro hstart
    have hlist : content.toList.dropWhile isWhitespace = content.toList := by
      rw [← String.toList_ofList (l := content.toList.dropWhile isWhitespace), ← trimStart, hstart]
    have hfront : (quotedPrefix content).toList <+: content.toList := by
      rw [quotedPrefix, trim, String.toList_ofList, String.toList_ofList, hlist]
      exact (List.take_prefix _ _).trans (List.rdropWhile_prefix _ _)
    exact DatabaseKind.likeStartsWith_iff.mpr (hfront.map kind.fold)

lemma matchingRows_ne_nil_iff (hblank : isBlank row.content = false) (hrow : row ∈ messages) :
    matchingRows kind messages row.peerUserId row.content ≠ [] ↔
      trimStart row.content = row.content ∨
        ∃ other ∈ messages, other ≠ row ∧ other.peerUserId = row.peerUserId ∧
          kind.likeStartsWith (quotedPrefix row.content) other.content = true := by
  rw [← @likeStartsWith_self_iff kind _ hblank]
  constructor
  · intro hne
    obtain ⟨other, hother⟩ := List.exists_mem_of_ne_nil _ hne
    obtain ⟨hmem, hwhere⟩ := List.mem_filter.mp hother
    obtain ⟨hscope, hlike⟩ := of_decide_eq_true hwhere
    by_cases hsame : other = row
    · subst hsame
      exact .inl hlike
    · exact .inr ⟨other, hmem, hsame, hscope, hlike⟩
  · rintro (hlike | ⟨other, hmem, -, hscope, hlike⟩)
    · exact List.ne_nil_of_mem (List.mem_filter.mpr ⟨hrow, decide_eq_true ⟨rfl, hlike⟩⟩)
    · exact List.ne_nil_of_mem (List.mem_filter.mpr ⟨hmem, decide_eq_true ⟨hscope, hlike⟩⟩)

lemma limitOne_newest_isSome {rows : List MessageRow} (tie : Nat) (hrows : rows ≠ []) :
    (limitOne (fun row other => decide (other.createdAt ≤ row.createdAt))
      tie rows).isSome = true := by
  have hsome := limitOne_key_isSome (fun row => -row.createdAt) tie hrows
  simpa only [Int.neg_le_neg_iff] using hsome

lemma wrote_of_mem_matchingRows {scope vtoken : String} (hquoted : isBlank quotedText = false)
    (hrow : row ∈ matchingRows kind messages scope quotedText)
    (hvtoken : row.vtoken = some vtoken) : Wrote messages scope quotedText vtoken := by
  obtain ⟨hmem, hwhere⟩ := List.mem_filter.mp hrow
  obtain ⟨hscope, hlike⟩ := of_decide_eq_true hwhere
  refine ⟨row, hmem, hscope, hvtoken, ?_⟩
  rw [trimStart_eq_self_of_likeStartsWith hquoted hlike]
  exact DatabaseKind.startsWith_of_likeStartsWith hlike

lemma QuoteOrigin.exists_ofHistory_iff {registry : ClientRegistry} {vtoken : String} :
    (∃ name label sessionName,
      ofHistory registry (some row.origin) = some (.client vtoken name label sessionName)) ↔
      row.vtoken = some vtoken ∧ vtoken ≠ "" := by
  constructor
  · rintro ⟨name, label, sessionName, hfound⟩
    obtain ⟨origin, horigin, hclient⟩ := Option.map_eq_some_iff.mp hfound
    obtain ⟨hrow, hne⟩ := Option.filter_eq_some_iff.mp horigin
    cases hrow
    obtain ⟨ownName, ownLabel, hown⟩ :=
      exists_ofVtoken registry row.origin.1 (some row.origin.2)
    rw [hown] at hclient
    injection hclient with hvtoken
    rw [hvtoken] at hne
    have hgiven := of_decide_eq_true hne
    cases hrowVtoken : row.vtoken with
    | none =>
      rw [MessageRow.origin, hrowVtoken] at hvtoken
      exact absurd hvtoken.symm hgiven
    | some own =>
      rw [MessageRow.origin, hrowVtoken] at hvtoken
      exact ⟨congrArg some hvtoken, hgiven⟩
  · rintro ⟨hvtoken, hne⟩
    have horigin : row.origin = (vtoken, row.sessionName) := by
      rw [MessageRow.origin, hvtoken]
      rfl
    obtain ⟨name, label, hclient⟩ :=
      exists_ofVtoken registry vtoken (some row.sessionName)
    refine ⟨name, label, some row.sessionName, ?_⟩
    rw [ofHistory, horigin, Option.filter_some_pos (by simpa using hne), Option.map_some, hclient]

end Lookup

namespace Dispatch

section Content

variable {config : HubConfig} {dispatch : Dispatch} {data : HubData}
  {scope quotedText : String} {refMs : Option Int}

lemma isBlank_of_collectQuoted (hquoted : collectQuoted dispatch.refs = some (quotedText, refMs)) :
    isBlank quotedText = false := by
  obtain ⟨item, -, hitem⟩ := List.exists_of_findSome?_eq_some hquoted
  obtain ⟨text, htext, heq⟩ := Option.map_eq_some_iff.mp hitem
  obtain ⟨-, hblank⟩ := Option.filter_eq_some_iff.mp htext
  obtain ⟨rfl, -⟩ := Prod.mk.inj heq
  simpa using hblank

/-- The newest of the replies that match, if the database answers. -/
lemma findByContent_eq (hscope : derivePeerScope dispatch.msg = some scope)
    (hquoted : collectQuoted dispatch.refs = some (quotedText, refMs))
    {env : HubEnv} (hok : env.ok = true) :
    dispatch.findByContent config data.messages env = (limitOne
        (fun row other => decide (other.createdAt ≤ row.createdAt)) env.tie
        (matchingRows config.kind data.messages scope quotedText)).map MessageRow.origin := by
  obtain ⟨c, rest, hchars, hc⟩ :=
    exists_toList_quotedPrefix (isBlank_of_collectQuoted hquoted)
  have hblank : ¬ isBlank (quotedPrefix quotedText) = true := by
    intro hall
    have hspace := trim_eq_empty_iff.mp (eq_of_beq hall) c (hchars ▸ List.mem_cons_self)
    rw [hc] at hspace
    exact Bool.false_ne_true hspace
  rw [findByContent, hquoted, Option.map_some, Option.bind_some,
    ← quotedPrefix, if_neg hblank, inScope, hscope, Option.bind_some,
    if_pos hok]
  rfl

lemma resolveQuoteFromDb_wrote_iff_matchingRows (hscope : derivePeerScope dispatch.msg = some scope)
    (hquoted : collectQuoted dispatch.refs = some (quotedText, refMs)) :
    (∀ env, env.ok = true → ∃ vtoken name label sessionName,
        dispatch.resolveQuoteFromDb config data env = some (.client vtoken name label sessionName) ∧
          Wrote data.messages scope quotedText vtoken) ↔
      matchingRows config.kind data.messages scope quotedText ≠ [] ∧
        ∀ newest, Newest (matchingRows config.kind data.messages scope
          quotedText) newest → ∃ vtoken, newest.vtoken = some vtoken ∧ vtoken ≠ "" := by
  have hnonblank := isBlank_of_collectQuoted hquoted
  constructor
  · intro hfound
    constructor
    · intro hnone
      obtain ⟨vtoken, name, label, sessionName, hresult, -⟩ := hfound {} rfl
      rw [resolveQuoteFromDb, findByContent_eq hscope hquoted rfl, hnone] at hresult
      cases hresult
    · rintro newest ⟨hmem, hnewest⟩
      -- the database may answer with each of the newest ones
      obtain ⟨tie, htie⟩ := @exists_limitOne _ _
        (fun row other : MessageRow => decide (other.createdAt ≤ row.createdAt)) newest hmem
        fun other hother => decide_eq_true (hnewest other hother)
      obtain ⟨vtoken, name, label, sessionName, hresult, -⟩ :=
        hfound { tie := tie } rfl
      rw [resolveQuoteFromDb, findByContent_eq hscope hquoted rfl, htie] at hresult
      exact ⟨vtoken, QuoteOrigin.exists_ofHistory_iff.mp ⟨name, label, sessionName, hresult⟩⟩
  · rintro ⟨hne, hnewest⟩ env hok
    obtain ⟨row, hrow⟩ := Option.isSome_iff_exists.mp (limitOne_newest_isSome env.tie hne)
    obtain ⟨hmem, hle⟩ := of_limitOne hrow
    obtain ⟨vtoken, hvtoken, hgiven⟩ := hnewest row
      ⟨hmem, fun other hother => of_decide_eq_true (hle other hother)⟩
    obtain ⟨name, label, sessionName, hclient⟩ :=
      QuoteOrigin.exists_ofHistory_iff.mpr ⟨hvtoken, hgiven⟩
    refine ⟨vtoken, name, label, sessionName, ?_, wrote_of_mem_matchingRows hnonblank hmem hvtoken⟩
    rw [resolveQuoteFromDb, findByContent_eq hscope hquoted hok, hrow]
    exact hclient

/-- A quote of a stored reply finds one of the conversation by its beginning
exactly if the reply does not begin with a blank, or another one begins as the
quote does; and no newest one of these is without a backend. -/
theorem resolveQuoteFromDb_wrote_iff {row : MessageRow} (hrow : row ∈ data.messages)
    (hscope : derivePeerScope dispatch.msg = some row.peerUserId)
    (hquoted : collectQuoted dispatch.refs = some (row.content, refMs)) :
    (∀ env : HubEnv, env.ok = true → ∃ vtoken name label sessionName,
        dispatch.resolveQuoteFromDb config data env = some (.client vtoken name label sessionName) ∧
          Wrote data.messages row.peerUserId row.content vtoken) ↔
      (trimStart row.content = row.content ∨ ∃ other ∈ data.messages, other ≠ row ∧
          other.peerUserId = row.peerUserId ∧
          config.kind.likeStartsWith (quotedPrefix row.content) other.content = true) ∧
        ∀ newest, Newest (matchingRows config.kind data.messages
          row.peerUserId row.content) newest →
            ∃ vtoken, newest.vtoken = some vtoken ∧ vtoken ≠ "" := by
  rw [resolveQuoteFromDb_wrote_iff_matchingRows hscope hquoted,
    matchingRows_ne_nil_iff (isBlank_of_collectQuoted hquoted) hrow]

end Content

end Dispatch

/-- A reply of the backend in the conversation with `u`. -/
def Sample.replied (content : String) : MessageRow :=
  ⟨"vctx_1", some "h1", "b", "peer:u", content, some 7, 0⟩

def Sample.repliedHub (content : String) : HubData :=
  { freshHub with
    registry := botRegistry
    messages := [replied content] }

/-- The user quotes a text and writes `more`. -/
def Sample.quotingText (text : String) : Dispatch :=
  { inbound := inbound "u" "more", refs := [{ text := some text }] }

namespace Dispatch

open Sample

theorem resolveQuoteFromDb_wrote_done :
    replied "done" ∈ (repliedHub "done").messages ∧
      derivePeerScope (quotingText "done").msg = some "peer:u" ∧
      collectQuoted (quotingText "done").refs = some ("done", none) ∧
      ∀ env : HubEnv, env.ok = true → ∃ vtoken name label sessionName,
          (quotingText "done").resolveQuoteFromDb noAcl (repliedHub "done")
              env = some (.client vtoken name label sessionName) ∧
            Wrote (repliedHub "done").messages "peer:u" "done" vtoken := by
  have hmem : replied "done" ∈ (repliedHub "done").messages :=
    List.mem_cons_self
  have hquoted : collectQuoted (quotingText "done").refs =
      some ((replied "done").content, none) := by decide
  refine ⟨hmem, by decide, hquoted, ?_⟩
  apply (resolveQuoteFromDb_wrote_iff hmem (by decide) hquoted).mpr
  refine ⟨.inl (by decide), ?_⟩
  rintro newest ⟨hnewest, -⟩
  obtain rfl := List.mem_singleton.mp (List.mem_filter.mp hnewest).1
  exact ⟨"h1", rfl, by decide⟩

/-- The reply is stored with the newline at its beginning, and looked up
without it. -/
theorem not_resolveQuoteFromDb_wrote :
    replied "\ndone" ∈ (repliedHub "\ndone").messages ∧ (replied "\ndone").vtoken = some "h1" ∧
      isBlank (replied "\ndone").content = false ∧
      derivePeerScope (quotingText "\ndone").msg = some (replied "\ndone").peerUserId ∧
      collectQuoted (quotingText "\ndone").refs = some ((replied "\ndone").content, none) ∧
      (quotingText "\ndone").resolveQuoteFromDb noAcl (repliedHub "\ndone") {} = none :=
  ⟨List.mem_cons_self, rfl, by decide, by decide, by decide, by decide +kernel⟩

end Dispatch

end IlinkHub
