/-
Database URLs in the logs (`lib.rs`): `redact_database_url` with its two ways, for the
URLs that the parser takes and for those it rejects.
-/
import IlinkHub.Text

/-- The first match of a pattern whose first character is not in front of it. -/
lemma Text.splitOnce_append {pat : String} {c : Char} {others : List Char}
    (hpat : pat.toList = c :: others) {front : String} (hfront : c ∉ front.toList)
    (rest : String) : splitOnce pat (front ++ pat ++ rest) = some (front, rest) := by
  have hgo : ∀ chars before, c ∉ chars →
      splitOnce.go pat before (chars ++ (pat.toList ++ rest.toList)) =
        some (chars.reverse ++ before, rest.toList) := by
    intro chars
    induction chars with
    | nil =>
      intro before _
      have hdrop : (c :: (others ++ rest.toList)).dropPrefix? pat.toList = some rest.toList :=
        List.dropPrefix?_eq_some_iff.mpr ⟨pat.toList, by simp [hpat], beq_self_eq_true _⟩
      rw [List.nil_append, hpat, List.cons_append, splitOnce.go, hdrop]
      rfl
    | cons d chars ih =>
      intro before hnot
      obtain ⟨hne, hrest⟩ := not_or.mp (List.mem_cons.not.mp hnot)
      have hnone : (d :: (chars ++ (pat.toList ++ rest.toList))).dropPrefix? pat.toList = none := by
        rw [← Option.not_isSome_iff_eq_none, dropPrefix?_isSome_iff, hpat, List.cons_prefix_cons]
        exact fun h => hne h.1
      rw [List.cons_append, splitOnce.go, hnone]
      refine (ih _ hrest).trans ?_
      rw [List.reverse_cons, List.append_assoc, List.singleton_append]
  have hall := hgo front.toList [] hfront
  rw [splitOnce, String.toList_append, String.toList_append, List.append_assoc, hall]
  simp

namespace IlinkHub

open Text

/-- What a parsed URL has after its credentials. -/
structure UrlRest where
  hostAndPath : String
  query : Option String
  fragment : Option String
deriving Repr, DecidableEq

structure ParsedUrl where
  scheme : String
  username : String
  password : Option String
  rest : UrlRest
deriving Repr, DecidableEq

/-- The parts of the `url` crate that do not see the credentials. -/
structure UrlLibrary where
  parseRest : String → List Char → Option UrlRest
  parseOther : String → List Char → Option UrlRest
  queryPairs : String → List (String × String)
  appendPairs : List (String × String) → String
  toString : ParsedUrl → String

/-- The characters that the parser does not skip. -/
def kept (c : Char) : Bool :=
  decide (c ≠ '\t' ∧ c ≠ '\n' ∧ c ≠ '\r')

/-- Blanks and controls at the ends do not count, nor do tabs and line ends anywhere. -/
def cleanUrl (url : String) : List Char :=
  ((url.toList.dropWhile fun c => c ≤ ' ').rdropWhile fun c => c ≤ ' ').filter kept

def isScheme (scheme : List Char) : Bool :=
  scheme.head?.any Char.isAlpha &&
    scheme.all fun c => c.isAlphanum || c == '+' || c == '-' || c == '.'

def isSpecial (scheme : String) : Bool :=
  ["ftp", "http", "https", "ws", "wss"].contains scheme

def closesAuthority (special : Bool) (c : Char) : Bool :=
  c == '/' || c == '?' || c == '#' || (special && c == '\\')

/-- The parts around the last `@`. -/
def splitCredentials (authority : List Char) : Option (List Char × List Char) :=
  match authority.reverse.dropWhile (· != '@') with
  | [] => none
  | _ :: front => some (front.reverse, (authority.reverse.takeWhile (· != '@')).reverse)

/-- The slashes of a special URL do not count, however many there are. -/
def skipSlashes (scheme : String) (after : List Char) : List Char :=
  if isSpecial scheme then after.dropWhile fun c => c == '/' || c == '\\' else after

/-- The part of a URL behind `//`. -/
def UrlLibrary.parseAuthority (lib : UrlLibrary) (scheme : String) (after : List Char) :
    Option ParsedUrl :=
  let authority := after.takeWhile fun c => !closesAuthority (isSpecial scheme) c
  match splitCredentials authority with
  | none => (lib.parseRest scheme after).map fun rest => ⟨scheme, "", none, rest⟩
  | some (creds, host) =>
    let password := (creds.dropWhile (· != ':')).drop 1
    (lib.parseRest scheme (host ++ after.drop authority.length)).map fun rest =>
      ⟨scheme, String.ofList (creds.takeWhile (· != ':')),
        if password = [] then none else some (String.ofList password), rest⟩

def UrlLibrary.parseText (lib : UrlLibrary) (text : List Char) : Option ParsedUrl :=
  let front := text.takeWhile (· != ':')
  let scheme := toAsciiLowercase (String.ofList front)
  let other := fun after => (lib.parseOther scheme after).map fun rest =>
    ParsedUrl.mk scheme "" none rest
  if isScheme front = false then none
  else
    match text.dropWhile (· != ':') with
    | _ :: '/' :: '/' :: after =>
      if scheme = "file" then other after
      else lib.parseAuthority scheme (skipSlashes scheme after)
    | _ :: after => other after
    | [] => none

/-- `Url::parse`.  Its rules for schemes and credentials are assumed to be those above,
with no percent-encoding. -/
def UrlLibrary.parse (lib : UrlLibrary) (url : String) : Option ParsedUrl :=
  lib.parseText (cleanUrl url)

def isSensitiveQueryKey (key : String) : Bool :=
  ["password", "passwd", "pwd", "sslpassword", "key", "secret", "token"].contains
    (toAsciiLowercase key)

def redactSensitiveQueryParams (lib : UrlLibrary) (url : ParsedUrl) : ParsedUrl :=
  let pairs := (url.rest.query.map lib.queryPairs).getD []
  if pairs.any fun pair => isSensitiveQueryKey pair.1 then
    { url with
      rest := { url.rest with
        query := some (lib.appendPairs (pairs.map fun pair =>
          if isSensitiveQueryKey pair.1 then (pair.1, "***") else pair)) } }
  else url

def redactDatabaseUrl (lib : UrlLibrary) (url : String) : String :=
  match lib.parse url with
  | some parsed =>
    lib.toString (redactSensitiveQueryParams lib
      (if parsed.password.isSome then { parsed with password := some "***" } else parsed))
  | none =>
    match splitOnce "://" url with
    | none => url
    | some (scheme, afterScheme) =>
      match splitOnce "@" afterScheme with
      | none => url
      | some (creds, rest) =>
        match splitOnce ":" creds with
        | none => url
        | some (user, _) => scheme ++ "://" ++ user ++ ":***@" ++ rest

/-- `s://u:p@h`. -/
def databaseUrl (scheme user rest password : String) : String :=
  scheme ++ "://" ++ (user ++ ":" ++ password ++ "@" ++ rest)

/-- The part of a password behind its first `@`. -/
def afterAt (password : String) : Option String :=
  (splitOnce "@" password).map Prod.snd

section Rejected

variable {scheme user rest password : String}

lemma at_cases (password : String) : '@' ∉ password.toList ∨
    ∃ front back, password = front ++ "@" ++ back ∧ '@' ∉ front.toList := by
  by_cases hmem : '@' ∈ password.toList
  · obtain ⟨front, back, heq, hfront⟩ := List.eq_append_cons_of_mem hmem
    refine .inr ⟨String.ofList front, String.ofList back, ?_, by simpa using hfront⟩
    rw [← String.toList_inj, heq]
    simp
  · exact .inl hmem

lemma afterAt_of_notMem (hnot : '@' ∉ password.toList) : afterAt password = none := by
  have hnone : splitOnce "@" password = none := by
    rw [← Option.not_isSome_iff_eq_none, ← contains, contains_iff]
    exact fun hwithin => hnot (hwithin.subset (by simp))
  rw [afterAt, hnone]
  rfl

/-- The rejected URL is cut at the first `@` behind the scheme. -/
lemma redactDatabaseUrl_of_rejected {lib : UrlLibrary} (hscheme : ':' ∉ scheme.toList)
    (hcolon : ':' ∉ user.toList) (hat : '@' ∉ user.toList)
    (hnone : lib.parse (databaseUrl scheme user rest password) = none) :
    redactDatabaseUrl lib (databaseUrl scheme user rest password) =
      scheme ++ "://" ++ user ++ ":***@" ++
        ((afterAt password).map (· ++ "@" ++ rest)).getD rest := by
  have hsplit := @splitOnce_append "://" ':' ['/', '/'] rfl _ hscheme
  have hcreds := @splitOnce_append ":" ':' [] rfl _ hcolon
  have hcut := @splitOnce_append "@" '@' [] rfl
  rw [redactDatabaseUrl, hnone]
  rw [databaseUrl, hsplit]
  dsimp only
  rcases at_cases password with hnot | ⟨front, back, rfl, hnot⟩
  · rw [hcut (by simp [hat, hnot]), afterAt_of_notMem hnot]
    dsimp only
    rw [hcreds]
    rfl
  · have hback : afterAt (front ++ "@" ++ back) = some back := by
      rw [afterAt, hcut hnot]
      rfl
    have htext : user ++ ":" ++ (front ++ "@" ++ back) ++ "@" ++ rest =
        user ++ ":" ++ front ++ "@" ++ (back ++ "@" ++ rest) := by
      simp [String.append_assoc]
    rw [htext, hcut (by simp [hat, hnot]), hback]
    dsimp only
    rw [hcreds]
    rfl

end Rejected

section Parsed

lemma dropWhile_append_cons {q : Char → Bool} {c : Char} (hc : q c = false)
    (front back : List Char) :
    (front ++ c :: back).dropWhile q = front.dropWhile q ++ c :: back := by
  rw [List.dropWhile_append]
  split
  · next hempty =>
    rw [List.isEmpty_iff.mp hempty, List.dropWhile_cons_of_neg (by simp [hc])]
    rfl
  · rfl

lemma takeWhile_append_cons {c : Char} {front : List Char} (hfront : c ∉ front)
    (back : List Char) : (front ++ c :: back).takeWhile (· != c) = front := by
  have hne : ∀ d ∈ front, (d != c) = true := fun d hd => bne_iff_ne.mpr fun h => hfront (h ▸ hd)
  rw [List.takeWhile_append_of_pos hne, List.takeWhile_cons_of_neg (by simp), List.append_nil]

lemma cleanUrl_databaseUrl (scheme user rest password : String) :
    cleanUrl (databaseUrl scheme user rest password) =
      (scheme.toList.dropWhile fun c => c ≤ ' ').filter kept ++ ':' :: '/' :: '/' ::
        (user.toList.filter kept ++ ':' :: (password.toList.filter kept ++ '@' ::
          (rest.toList.rdropWhile fun c => c ≤ ' ').filter kept)) := by
  have htext : (databaseUrl scheme user rest password).toList =
      scheme.toList ++ ':' :: ('/' :: '/' :: user.toList ++ ':' :: password.toList ++ '@' ::
        rest.toList) := by
    simp [databaseUrl]
  have hend : ∀ front, (front ++ '@' :: rest.toList).rdropWhile (fun c => c ≤ ' ') =
      front ++ '@' :: rest.toList.rdropWhile (fun c => c ≤ ' ') := by
    intro front
    rw [List.rdropWhile, List.reverse_append, List.reverse_cons, List.append_assoc,
      List.singleton_append, dropWhile_append_cons (by decide)]
    simp [List.rdropWhile]
  rw [cleanUrl, htext, dropWhile_append_cons (by decide), ← List.cons_append, ← List.append_assoc,
    hend]
  simp [kept]

lemma of_splitCredentials {authority creds host : List Char}
    (hsplit : splitCredentials authority = some (creds, host)) :
    authority = creds ++ '@' :: host := by
  unfold splitCredentials at hsplit
  split at hsplit
  · cases hsplit
  · next c front hdrop =>
    cases hsplit
    have hc : c = '@' := by
      have hhead := List.head?_dropWhile_not (· != '@') authority.reverse
      rw [hdrop] at hhead
      simpa using hhead
    have hall := List.takeWhile_append_dropWhile (p := (· != '@')) (l := authority.reverse)
    rw [hdrop, hc] at hall
    simpa using (congrArg List.reverse hall).symm

/-- If the credentials end in the password, they end where it ends. -/
lemma credentials_eq {user password rest creds others : List Char} (huser : ':' ∉ user)
    (htext : creds ++ '@' :: others = user ++ ':' :: (password ++ '@' :: rest))
    (hown : (creds.dropWhile (· != ':')).drop 1 = password) (hne : password ≠ []) :
    creds.takeWhile (· != ':') = user ∧ others = rest := by
  have hcreds := List.takeWhile_append_dropWhile (p := (· != ':')) (l := creds)
  cases hdrop : creds.dropWhile (· != ':') with
  | nil =>
    rw [hdrop] at hown
    exact absurd hown.symm hne
  | cons c own =>
    have hc : c = ':' := by
      have hhead := List.head?_dropWhile_not (· != ':') creds
      rw [hdrop] at hhead
      simpa using hhead
    rw [hdrop] at hown hcreds
    rw [← hcreds, hc, List.append_assoc, List.cons_append] at htext
    have hfront : ':' ∉ creds.takeWhile (· != ':') := fun hmem => by
      simpa using List.mem_takeWhile_imp hmem
    have hfronts := congrArg (List.takeWhile (· != ':')) htext
    rw [takeWhile_append_cons hfront, takeWhile_append_cons huser] at hfronts
    have hown : own = password := hown
    rw [hfronts, hown] at htext
    have htail := (List.cons.inj (List.append_cancel_left htext)).2
    exact ⟨hfronts, (List.cons.inj (List.append_cancel_left htail)).2⟩

variable {lib : UrlLibrary}

lemma of_parseAuthority {scheme : String} {after : List Char}
    {parsed : ParsedUrl} {password : String}
    (hparse : lib.parseAuthority scheme after = some parsed)
    (hpassword : parsed.password = some password) :
    ∃ creds others rest, after = creds ++ '@' :: others ∧ lib.parseRest scheme others = some rest ∧
      (creds.dropWhile (· != ':')).drop 1 = password.toList ∧ password.toList ≠ [] ∧
      parsed = ⟨scheme, String.ofList (creds.takeWhile (· != ':')), some password, rest⟩ := by
  unfold UrlLibrary.parseAuthority at hparse
  dsimp only at hparse
  split at hparse
  · obtain ⟨rest, -, rfl⟩ := Option.map_eq_some_iff.mp hparse
    cases hpassword
  · next creds host hsplit =>
    obtain ⟨rest, hrest, rfl⟩ := Option.map_eq_some_iff.mp hparse
    have htext := List.prefix_iff_eq_append.mp (List.takeWhile_prefix
      (fun c => !closesAuthority (isSpecial scheme) c) (l := after))
    rw [of_splitCredentials hsplit] at hrest htext
    split at hpassword
    · cases hpassword
    · next hne =>
      cases hpassword
      refine ⟨creds, _, rest, ?_, hrest, by simp, by simpa using hne, by rw [if_neg hne]⟩
      rw [← List.cons_append, ← List.append_assoc]
      exact htext.symm

lemma of_parseText {front after : List Char} {parsed : ParsedUrl}
    {password : String} (hfront : ':' ∉ front)
    (hparse : lib.parseText (front ++ ':' :: '/' :: '/' :: after) = some parsed)
    (hpassword : parsed.password = some password) :
    lib.parseAuthority (toAsciiLowercase (String.ofList front))
      (skipSlashes (toAsciiLowercase (String.ofList front)) after) = some parsed := by
  have hdrop : (front ++ ':' :: '/' :: '/' :: after).dropWhile (· != ':') =
      ':' :: '/' :: '/' :: after := by
    have hall := List.takeWhile_append_dropWhile (p := (· != ':'))
      (l := front ++ ':' :: '/' :: '/' :: after)
    rw [takeWhile_append_cons hfront] at hall
    exact List.append_cancel_left hall
  unfold UrlLibrary.parseText at hparse
  rw [hdrop, takeWhile_append_cons hfront] at hparse
  dsimp only at hparse
  split at hparse
  · cases hparse
  · split at hparse
    · next heq =>
      cases heq
      split at hparse
      · obtain ⟨_, -, rfl⟩ := Option.map_eq_some_iff.mp hparse
        cases hpassword
      · exact hparse
    · obtain ⟨_, -, rfl⟩ := Option.map_eq_some_iff.mp hparse
      cases hpassword
    · cases hparse

lemma skipSlashes_append (scheme : String) (front back : List Char) :
    skipSlashes scheme (front ++ ':' :: back) = skipSlashes scheme front ++ ':' :: back := by
  unfold skipSlashes
  split
  · exact dropWhile_append_cons (by decide) _ _
  · rfl

lemma skipSlashes_subset (scheme : String) (front : List Char) :
    skipSlashes scheme front ⊆ front := by
  unfold skipSlashes
  split
  · exact (List.dropWhile_sublist _).subset
  · exact List.Subset.refl _

/-- A URL that is parsed with its password has its other parts from the other texts. -/
lemma parse_databaseUrl {scheme user : String}
    (hscheme : ':' ∉ scheme.toList) (huser : ':' ∉ user.toList) (rest : String) :
    ∃ erased, ∀ password parsed,
      lib.parse (databaseUrl scheme user rest password) = some parsed →
        parsed.password = some password → erased = some { parsed with password := none } := by
  obtain ⟨front, hfront⟩ : ∃ front,
      front = (scheme.toList.dropWhile fun c => c ≤ ' ').filter kept := ⟨_, rfl⟩
  obtain ⟨name, hname⟩ : ∃ name, name = toAsciiLowercase (String.ofList front) := ⟨_, rfl⟩
  obtain ⟨back, hback⟩ : ∃ back,
      back = (rest.toList.rdropWhile fun c => c ≤ ' ').filter kept := ⟨_, rfl⟩
  have hcolon : ':' ∉ front := fun hmem => by
    rw [hfront] at hmem
    exact hscheme ((List.dropWhile_sublist _).subset (List.mem_of_mem_filter hmem))
  have hown : ':' ∉ skipSlashes name (user.toList.filter kept) := fun hmem =>
    huser (List.mem_of_mem_filter (skipSlashes_subset _ _ hmem))
  refine ⟨(lib.parseRest name back).map fun rest =>
    ⟨name, String.ofList (skipSlashes name (user.toList.filter kept)), none, rest⟩, ?_⟩
  intro password parsed hparse hpassword
  rw [UrlLibrary.parse, cleanUrl_databaseUrl, ← hfront, ← hback] at hparse
  have hparse := of_parseText hcolon hparse hpassword
  rw [← hname, skipSlashes_append] at hparse
  obtain ⟨creds, others, rest, htext, hrest, hcreds, hne, rfl⟩ :=
    of_parseAuthority hparse hpassword
  -- What was read as the password has no skipped characters.
  have hkept : password.toList.filter kept = password.toList := by
    refine List.filter_eq_self.mpr fun c hc => ?_
    rw [← hcreds] at hc
    have hmem : c ∈ creds ++ '@' :: others := List.mem_append_left _
      ((List.dropWhile_sublist _).subset (List.mem_of_mem_drop hc))
    rw [← htext] at hmem
    simp only [List.mem_append, List.mem_cons] at hmem
    rcases hmem with hmem | rfl | hmem | rfl | hmem
    · exact (List.mem_filter.mp (skipSlashes_subset _ _ hmem)).2
    · decide
    · exact (List.mem_filter.mp hmem).2
    · decide
    · exact (List.mem_filter.mp (hback ▸ hmem)).2
  rw [hkept] at htext
  obtain ⟨huser, hothers⟩ := credentials_eq hown htext.symm hcreds hne
  rw [hothers] at hrest
  rw [hrest, ← huser]
  rfl

end Parsed

/-- A URL that is parsed with its password is shown without it, and one that is rejected
is shown with what the password has behind its first `@`. -/
theorem redactDatabaseUrl_eq_iff (lib : UrlLibrary) {scheme user : String}
    (hscheme : ':' ∉ scheme.toList) (huser : ':' ∉ user.toList ∧ '@' ∉ user.toList)
    (rest first second : String) (hboth : (lib.parse (databaseUrl scheme user rest first) = none ∧
        lib.parse (databaseUrl scheme user rest second) = none) ∨
      ((lib.parse (databaseUrl scheme user rest first)).map ParsedUrl.password = some (some first) ∧
        (lib.parse (databaseUrl scheme user rest second)).map ParsedUrl.password =
          some (some second))) :
    redactDatabaseUrl lib (databaseUrl scheme user rest first) =
        redactDatabaseUrl lib (databaseUrl scheme user rest second) ↔
      (lib.parse (databaseUrl scheme user rest first)).isSome = true ∨
        afterAt first = afterAt second := by
  rcases hboth with ⟨hfirst, hsecond⟩ | ⟨hfirst, hsecond⟩
  · rw [redactDatabaseUrl_of_rejected hscheme huser.1 huser.2 hfirst,
      redactDatabaseUrl_of_rejected hscheme huser.1 huser.2 hsecond, hfirst]
    have hlonger : ∀ text, text ++ "@" ++ rest ≠ rest := fun text heq => by
      have hlength := congrArg String.length heq
      simp at hlength
    cases afterAt first with
    | none =>
      cases afterAt second with
      | none => simp
      | some text => simpa using (hlonger text).symm
    | some text =>
      cases afterAt second with
      | none => simp
      | some other => simp
  · obtain ⟨parsed, hparsed, hpassword⟩ := Option.map_eq_some_iff.mp hfirst
    obtain ⟨other, hother, hpassword'⟩ := Option.map_eq_some_iff.mp hsecond
    obtain ⟨erased, herased⟩ := @parse_databaseUrl lib scheme user hscheme huser.1 rest
    have hsame := (herased first parsed hparsed hpassword).symm.trans
      (herased second other hother hpassword')
    refine iff_of_true ?_ (.inl (by rw [hparsed]; rfl))
    have hmasked :=
      congrArg (fun url => { url with password := some "***" }) (Option.some.inj hsame)
    rw [redactDatabaseUrl, redactDatabaseUrl, hparsed, hother]
    dsimp only
    rw [hpassword, hpassword', hmasked]
    rfl

/-- A library that takes every host. -/
def Sample.anyHost : UrlLibrary where
  parseRest _ text := some ⟨String.ofList text, none, none⟩
  parseOther _ text := some ⟨String.ofList text, none, none⟩
  queryPairs _ := []
  appendPairs _ := ""
  toString url := url.scheme ++ "://" ++ url.username ++ ":" ++ url.password.getD "" ++ "@" ++
    url.rest.hostAndPath

open Sample

theorem redactDatabaseUrl_eq_parsed :
    anyHost.parse "mysql://u:a@b@h/db" = some ⟨"mysql", "u", some "a@b", ⟨"h/db", none, none⟩⟩ ∧
      redactDatabaseUrl anyHost "mysql://u:a@b@h/db" =
        redactDatabaseUrl anyHost "mysql://u:c@h/db" :=
  ⟨by decide +kernel, (@redactDatabaseUrl_eq_iff anyHost "mysql" "u" (by decide) (by decide) "h/db"
    "a@b" "c" (.inr (by decide +kernel))).mpr (.inl (by decide +kernel))⟩

/-- An underscore is not allowed in a scheme, so the fallback shows half of the password. -/
theorem redactDatabaseUrl_shows_password :
    anyHost.parse "my_sql://u:a@b@h/db" = none ∧ anyHost.parse "my_sql://u:c@h/db" = none ∧
      redactDatabaseUrl anyHost "my_sql://u:a@b@h/db" = "my_sql://u:***@b@h/db" ∧
      redactDatabaseUrl anyHost "my_sql://u:c@h/db" = "my_sql://u:***@h/db" := by
  decide +kernel

end IlinkHub
