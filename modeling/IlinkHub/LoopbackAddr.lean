/-
The loopback check of the desktop shell's listen address (`listen_addr.rs`), and
the forms that its documentation lists.
-/
import IlinkHub.Text

namespace IlinkHub

open Text

namespace ListenAddr

/-- `parse::<u16>().ok().filter(|p| *p > 0)`. -/
def parsePort (s : String) : Option Nat :=
  (parseUnsigned 16 s).filter (0 < ·)

/-- `str::trim_start_matches`; `skip` characters belong to the last match. -/
def trimStartMatches (pat : List Char) : Nat → List Char → List Char
  | _, [] => []
  | skip + 1, _ :: rest => trimStartMatches pat skip rest
  | 0, c :: rest =>
    if pat <+: c :: rest then trimStartMatches pat (pat.length - 1) rest else c :: rest

def http : List Char := "http://".toList

def https : List Char := "https://".toList

def stripSchemes (text : List Char) : List Char :=
  trimStartMatches https 0 (trimStartMatches http 0 text)

/-- The part in front of the last `:`, as `rsplit_once` cuts. -/
def beforeLastColon : List Char → Option (List Char)
  | [] => none
  | c :: rest => ((beforeLastColon rest).map (c :: ·)).or (if c = ':' then some [] else none)

def hostOf (trimmed : String) : List Char → Except String (List Char)
  | '[' :: rest =>
    if ']' ∈ rest then .ok (rest.takeWhile (· ≠ ']'))
    else .error s!"ILINK_HUB_ADDR `{trimmed}` has invalid IPv6 brackets"
  | s =>
    match beforeLastColon s with
    | some host => .ok host
    | none => .error s!"ILINK_HUB_ADDR `{trimmed}` is missing a port"

def loopbackHosts : List (List Char) :=
  ["127.0.0.1".toList, "localhost".toList, "::1".toList]

end ListenAddr

open ListenAddr

def ensureLoopbackListenAddr (addr : String) : Except String Unit :=
  let trimmed := trim addr
  if trimmed = "" then .error "ILINK_HUB_ADDR is empty"
  else if ':' ∉ trimmed.toList then
    match parsePort trimmed with
    | some _ => .ok ()
    | none => .error s!"ILINK_HUB_ADDR `{trimmed}` is not a valid port"
  else
    match hostOf trimmed (stripSchemes trimmed.toList) with
    | .error e => .error e
    | .ok host =>
      if host ∈ loopbackHosts then .ok ()
      else
        let got := String.ofList host
        .error (s!"ILINK_HUB_ADDR `{trimmed}` must use a loopback host " ++
          s!"(127.0.0.1, localhost, or ::1); got host `{got}`")

def parseLoopbackPort (addr : String) : Option Nat :=
  let trimmed := trim addr
  match stripPrefix "127.0.0.1:" trimmed with
  | some rest => parsePort rest
  | none =>
    match stripPrefix "localhost:" trimmed with
    | some rest => parsePort rest
    | none => if ':' ∉ trimmed.toList then parsePort trimmed else none

namespace ListenAddr

/-- A port in decimal digits. -/
structure IsPort (digits : List Char) (p : Nat) : Prop where
  nonempty : digits ≠ []
  decimal : ∀ c ∈ digits, c.isDigit = true
  value : Nat.ofDigitChars 10 digits 0 = p
  pos : 1 ≤ p
  fits : p ≤ 65535

/-- The listed forms, behind an optional scheme. -/
inductive Listed (p : Nat) : List Char → Prop
  | bare {digits : List Char} : IsPort digits p → Listed p digits
  | plain {host digits : List Char} : host ∈ loopbackHosts → IsPort digits p →
      Listed p (host ++ ':' :: digits)
  | bracketed {digits : List Char} : IsPort digits p →
      Listed p ('[' :: ("::1".toList ++ ']' :: ':' :: digits))

def Documented (addr : String) : Prop :=
  ∃ scheme ∈ [[], http, https], ∃ p s, Listed p s ∧ (trim addr).toList = scheme ++ s

/-- Schemes in front of a text, as often as one likes. -/
def schemes (n m : Nat) : List Char :=
  (List.replicate n http).flatten ++ (List.replicate m https).flatten

/-- A loopback host with anything in the place of the port, or in brackets with
anything behind them. -/
inductive Hosted : List Char → Prop
  | plain {host tail : List Char} : host ∈ loopbackHosts → ':' ∉ tail → Hosted (host ++ ':' :: tail)
  | bracketed {host tail : List Char} : host ∈ loopbackHosts → Hosted ('[' :: (host ++ ']' :: tail))

/-- No port stands there, or it is another host than `::1` that is in brackets. -/
inductive Portless : List Char → Prop
  | plain {host tail : List Char} : host ∈ loopbackHosts → ':' ∉ tail → (∀ p, ¬ IsPort tail p) →
      Portless (host ++ ':' :: tail)
  | bracketed {host tail : List Char} : host ∈ loopbackHosts →
      (host = "::1".toList → ∀ digits p, IsPort digits p → tail ≠ ':' :: digits) →
      Portless ('[' :: (host ++ ']' :: tail))

/-- The texts about which the check and the documentation disagree: a port with a
plus sign, a bare port behind a scheme, two schemes or more, and no port. -/
inductive Misjudged : List Char → Prop
  | signed {digits : List Char} {p : Nat} : IsPort digits p → Misjudged ('+' :: digits)
  | schemePort {scheme digits : List Char} {p : Nat} : scheme ∈ [http, https] →
      IsPort digits p → Misjudged (scheme ++ digits)
  | repeated {n m : Nat} {s : List Char} : 2 ≤ n + m → Hosted s → Misjudged (schemes n m ++ s)
  | portless {n m : Nat} {s : List Char} : Portless s → ':' ∈ schemes n m ++ s →
      Misjudged (schemes n m ++ s)

section Forms

variable {s host digits tail : List Char} {p : Nat}

lemma IsPort.notMem (hport : IsPort digits p) {c : Char} (hc : c.isDigit = false) : c ∉ digits := by
  intro hmem
  simp [hport.decimal c hmem] at hc

lemma parsePort_eq_some_iff {s : String} :
    parsePort s = some p ↔
      ∃ digits, IsPort digits p ∧ (s.toList = digits ∨ s.toList = '+' :: digits) := by
  rw [parsePort, Option.filter_eq_some_iff, parseUnsigned_eq_some_iff, decide_eq_true_eq]
  constructor
  · rintro ⟨⟨digits, hchars, hne, hall, hvalue, hfits⟩, hpos⟩
    exact ⟨digits, ⟨hne, hall, hvalue, hpos, by omega⟩, hchars⟩
  · rintro ⟨digits, ⟨hne, hall, hvalue, hpos, hfits⟩, hchars⟩
    exact ⟨⟨digits, hchars, hne, hall, hvalue, by omega⟩, hpos⟩

lemma beforeLastColon_eq_none_iff : beforeLastColon s = none ↔ ':' ∉ s := by
  induction s with
  | nil => simp [beforeLastColon]
  | cons c rest ih =>
    rw [beforeLastColon, Option.or_eq_none_iff, Option.map_eq_none_iff, ih, List.mem_cons, not_or,
      and_comm, ite_eq_right_iff, eq_comm]
    simp

lemma beforeLastColon_append (htail : ':' ∉ tail) :
    beforeLastColon (host ++ ':' :: tail) = some host := by
  induction host with
  | nil =>
    rw [List.nil_append, beforeLastColon, beforeLastColon_eq_none_iff.mpr htail]
    rfl
  | cons c host ih =>
    rw [List.cons_append, beforeLastColon, ih]
    rfl

lemma of_beforeLastColon (hfound : beforeLastColon s = some host) :
    ∃ tail, ':' ∉ tail ∧ s = host ++ ':' :: tail := by
  induction s generalizing host with
  | nil => cases hfound
  | cons c rest ih =>
    rw [beforeLastColon] at hfound
    cases hrest : beforeLastColon rest with
    | some front =>
      rw [hrest] at hfound
      cases hfound
      obtain ⟨tail, htail, rfl⟩ := ih hrest
      exact ⟨tail, htail, rfl⟩
    | none =>
      rw [hrest, Option.map_none, Option.none_or] at hfound
      split at hfound
      · next hc =>
        cases hfound
        exact ⟨rest, beforeLastColon_eq_none_iff.mp hrest, by rw [hc, List.nil_append]⟩
      · cases hfound

lemma takeWhile_bracket (hfront : ']' ∉ host) :
    (host ++ ']' :: tail).takeWhile (· ≠ ']') = host := by
  rw [List.takeWhile_append_of_pos, List.takeWhile_cons_of_neg (by simp), List.append_nil]
  intro c hc
  exact decide_eq_true fun heq => hfront (heq ▸ hc)

/-- No loopback host starts with the letter of a scheme or with a bracket, and
none has a bracket in it. -/
lemma of_mem_loopbackHosts (hhost : host ∈ loopbackHosts) :
    (host ++ tail).head? ≠ some 'h' ∧ (host ++ tail).head? ≠ some '[' ∧ ']' ∉ host := by
  simp only [loopbackHosts, List.mem_cons, List.not_mem_nil, or_false] at hhost
  rcases hhost with rfl | rfl | rfl
  all_goals exact ⟨by rintro ⟨⟩, by rintro ⟨⟩, by decide⟩

/-- The hosts that the check finds, by the shape of the text. -/
lemma hostOf_iff (trimmed : String) :
    (∃ host ∈ loopbackHosts, hostOf trimmed s = .ok host) ↔ Hosted s := by
  constructor
  · rintro ⟨host, hhost, hfound⟩
    unfold hostOf at hfound
    split at hfound
    · next rest =>
      split at hfound
      · next hmem =>
        obtain ⟨front, tail, rfl, hfront⟩ := List.eq_append_cons_of_mem hmem
        rw [takeWhile_bracket hfront] at hfound
        cases hfound
        exact .bracketed hhost
      · cases hfound
    · split at hfound
      · next found hcolon =>
        cases hfound
        obtain ⟨tail, htail, rfl⟩ := of_beforeLastColon hcolon
        exact .plain hhost htail
      · cases hfound
  · intro hhosted
    cases hhosted with
    | @plain host tail hhost htail =>
      refine ⟨host, hhost, ?_⟩
      have hs := (@of_mem_loopbackHosts host (':' :: tail) hhost).2.1
      unfold hostOf
      split
      · next heq => exact absurd (congrArg List.head? heq) hs
      · rw [beforeLastColon_append htail]
    | @bracketed host tail hhost =>
      refine ⟨host, hhost, ?_⟩
      rw [hostOf, if_pos (by simp), takeWhile_bracket (@of_mem_loopbackHosts host [] hhost).2.2]

lemma Hosted.head?_ne (hhosted : Hosted s) : s.head? ≠ some 'h' := by
  cases hhosted with
  | plain hhost _ => exact (of_mem_loopbackHosts hhost).1
  | bracketed _ => rintro ⟨⟩

lemma Portless.hosted (hportless : Portless s) : Hosted s := by
  cases hportless with
  | plain hhost htail _ => exact .plain hhost htail
  | bracketed hhost _ => exact .bracketed hhost

lemma Hosted.cases (hhosted : Hosted s) : Portless s ∨ ∃ p, Listed p s := by
  cases hhosted with
  | @plain host tail hhost htail =>
    by_cases hport : ∃ p, IsPort tail p
    · obtain ⟨p, hport⟩ := hport
      exact .inr ⟨p, .plain hhost hport⟩
    · exact .inl (.plain hhost htail fun p hp => hport ⟨p, hp⟩)
  | @bracketed host tail hhost =>
    by_cases hport : host = "::1".toList ∧ ∃ digits p, IsPort digits p ∧ tail = ':' :: digits
    · obtain ⟨rfl, digits, p, hport, rfl⟩ := hport
      exact .inr ⟨p, .bracketed hport⟩
    · exact .inl (.bracketed hhost fun hown digits p hp htail =>
        hport ⟨hown, digits, p, hp, htail⟩)

lemma Hosted.not_isPort (hhosted : Hosted s) : ¬ IsPort s p := by
  intro hport
  cases hhosted with
  | plain => exact hport.notMem (c := ':') rfl (by simp)
  | bracketed => exact hport.notMem rfl List.mem_cons_self

lemma Listed.cases (hlisted : Listed p s) : IsPort s p ∨ ':' ∈ s ∧ Hosted s := by
  cases hlisted with
  | bare hport => exact .inl hport
  | plain hhost hport => exact .inr ⟨by simp, .plain hhost (hport.notMem rfl)⟩
  | bracketed _ => exact .inr ⟨by simp, .bracketed (by decide)⟩

lemma Listed.head?_ne (hlisted : Listed p s) : s.head? ≠ some 'h' := by
  rcases hlisted.cases with hport | ⟨-, hhosted⟩
  · exact fun hhead => hport.notMem rfl (List.mem_of_mem_head? hhead)
  · exact hhosted.head?_ne

lemma Portless.not_listed (hportless : Portless s) : ¬ Listed p s := by
  intro hlisted
  cases hportless with
  | @plain host tail hhost htail hnone =>
    have hown := @beforeLastColon_append host tail htail
    generalize htext : host ++ ':' :: tail = s at hlisted hown
    cases hlisted with
    | bare hport => exact hport.notMem (c := ':') rfl (by simp [← htext])
    | @plain other digits _ hport =>
      rw [beforeLastColon_append (hport.notMem rfl)] at hown
      cases hown
      cases List.append_cancel_left htext
      exact hnone p hport
    | bracketed => exact (of_mem_loopbackHosts hhost).2.1 (congrArg List.head? htext)
  | @bracketed host tail hhost hnone =>
    generalize htext : '[' :: (host ++ ']' :: tail) = s at hlisted
    cases hlisted with
    | bare hport => exact hport.notMem rfl (htext ▸ List.mem_cons_self)
    | plain hother _ => exact (of_mem_loopbackHosts hother).2.1 (congrArg List.head? htext).symm
    | @bracketed digits hport =>
      have hrest := List.tail_eq_of_cons_eq htext
      have hown := @takeWhile_bracket host tail (@of_mem_loopbackHosts host [] hhost).2.2
      rw [hrest, takeWhile_bracket (by decide)] at hown
      subst hown
      exact hnone rfl digits p hport (List.tail_eq_of_cons_eq (List.append_cancel_left hrest))

lemma trimStartMatches_eq_self {pat : List Char} (hno : ¬ pat <+: s) :
    trimStartMatches pat 0 s = s := by
  cases s with
  | nil => rfl
  | cons c rest => rw [trimStartMatches, if_neg hno]

lemma trimStartMatches_append {pat : List Char} (hpat : pat ≠ []) (s : List Char) :
    trimStartMatches pat 0 (pat ++ s) = trimStartMatches pat 0 s := by
  have hskip : ∀ front,
      trimStartMatches pat front.length (front ++ s) = trimStartMatches pat 0 s := by
    intro front
    induction front with
    | nil => rfl
    | cons c front ih => exact ih
  obtain ⟨c, rest, hcons⟩ := List.exists_cons_of_ne_nil hpat
  have hmatch : pat <+: c :: (rest ++ s) := ⟨s, by rw [hcons, List.cons_append]⟩
  rw [← hskip rest]
  nth_rewrite 2 [hcons]
  rw [List.cons_append, trimStartMatches, if_pos hmatch, hcons, List.length_cons,
    Nat.add_sub_cancel]

lemma trimStartMatches_replicate {pat : List Char} (hpat : pat ≠ []) (n : Nat) (s : List Char) :
    trimStartMatches pat 0 ((List.replicate n pat).flatten ++ s) = trimStartMatches pat 0 s := by
  induction n with
  | zero => rfl
  | succ n ih =>
    rw [List.replicate_succ, List.flatten_cons, List.append_assoc, trimStartMatches_append hpat, ih]

lemma exists_replicate {pat : List Char} (hpat : pat ≠ []) (s : List Char) :
    ∃ n, s = (List.replicate n pat).flatten ++ trimStartMatches pat 0 s := by
  induction hlength : s.length using Nat.strong_induction_on generalizing s with
  | _ length ih =>
    by_cases hmatch : pat <+: s
    · obtain ⟨rest, rfl⟩ := hmatch
      have hpos := List.length_pos_of_ne_nil hpat
      rw [List.length_append] at hlength
      obtain ⟨n, hn⟩ := ih rest.length (by omega) rest rfl
      refine ⟨n + 1, ?_⟩
      rw [trimStartMatches_append hpat, List.replicate_succ, List.flatten_cons, List.append_assoc,
        ← hn]
    · exact ⟨0, (trimStartMatches_eq_self hmatch).symm⟩

/-- The check takes all schemes away. -/
lemma exists_schemes (text : List Char) : ∃ n m, text = schemes n m ++ stripSchemes text := by
  obtain ⟨n, hn⟩ := @exists_replicate http (by decide) text
  obtain ⟨m, hm⟩ := @exists_replicate https (by decide) (trimStartMatches http 0 text)
  refine ⟨n, m, ?_⟩
  rw [schemes, stripSchemes, List.append_assoc, ← hm, ← hn]

lemma stripSchemes_append (hs : s.head? ≠ some 'h') (n m : Nat) :
    stripSchemes (schemes n m ++ s) = s := by
  have hno : ∀ pat, pat.head? = some 'h' → trimStartMatches pat 0 s = s := by
    intro pat hpat
    refine trimStartMatches_eq_self ?_
    rintro ⟨rest, rfl⟩
    exact hs (by rw [List.head?_append, hpat, Option.some_or])
  have hhttp : trimStartMatches http 0 ((List.replicate m https).flatten ++ s) =
      (List.replicate m https).flatten ++ s := by
    cases m with
    | zero => exact hno http rfl
    | succ m =>
      refine trimStartMatches_eq_self ?_
      rintro ⟨rest, ⟨⟩⟩
  rw [schemes, stripSchemes, List.append_assoc, trimStartMatches_replicate (by decide), hhttp,
    trimStartMatches_replicate (by decide), hno https rfl]

lemma mem_schemes_iff {scheme : List Char} :
    scheme ∈ [[], http, https] ↔ ∃ n m, n + m ≤ 1 ∧ scheme = schemes n m := by
  constructor
  · intro hscheme
    simp only [List.mem_cons, List.not_mem_nil, or_false] at hscheme
    rcases hscheme with rfl | rfl | rfl
    · exact ⟨0, 0, by decide, rfl⟩
    · exact ⟨1, 0, by decide, rfl⟩
    · exact ⟨0, 1, by decide, rfl⟩
  · rintro ⟨n, m, hle, rfl⟩
    obtain ⟨rfl, rfl⟩ | ⟨rfl, rfl⟩ | ⟨rfl, rfl⟩ :
        n = 0 ∧ m = 0 ∨ n = 1 ∧ m = 0 ∨ n = 0 ∧ m = 1 := by omega
    all_goals decide

lemma colon_mem_schemes {n m : Nat} (hsome : 1 ≤ n + m) : ':' ∈ schemes n m := by
  have hhttp : ':' ∈ http := by decide
  have hhttps : ':' ∈ https := by decide
  simp [schemes, List.mem_replicate, hhttp, hhttps]
  omega

lemma length_schemes (n m : Nat) : (schemes n m).length = n * 7 + m * 8 := by
  have hhttp : http.length = 7 := by decide
  have hhttps : https.length = 8 := by decide
  simp [schemes, hhttp, hhttps]

end Forms

/-- What the check accepts. -/
lemma ensure_eq_ok_iff {addr : String} :
    ensureLoopbackListenAddr addr = .ok () ↔
      ':' ∉ (trim addr).toList ∧ (∃ p, parsePort (trim addr) = some p) ∨
      ':' ∈ (trim addr).toList ∧ Hosted (stripSchemes (trim addr).toList) := by
  rw [← hostOf_iff (trim addr)]
  unfold ensureLoopbackListenAddr
  by_cases hempty : trim addr = ""
  · have hnone : parsePort "" = none := by decide
    simp [hempty, hnone]
  by_cases hcolon : ':' ∈ (trim addr).toList
  · simp only [hempty, hcolon, not_true_eq_false, if_false]
    split
    · next hhost => simp [hhost]
    · next host hhost => simp [hhost]
  · simp only [hempty, hcolon]
    cases parsePort (trim addr) with
    | none => simp
    | some p => simp

lemma parseLoopbackPort_eq {addr : String} {lead digits : List Char} {p : Nat}
    (hlead : lead ∈ [[], "127.0.0.1:".toList, "localhost:".toList]) (hport : IsPort digits p)
    (htext : (trim addr).toList = lead ++ digits) : parseLoopbackPort addr = some p := by
  have hdigits : ∀ s, s.toList = digits → parsePort s = some p :=
    fun s hs => parsePort_eq_some_iff.mpr ⟨digits, hport, .inl hs⟩
  have hfound : ∀ pat, pat.toList = lead →
      stripPrefix pat (trim addr) = some (String.ofList digits) := by
    rintro pat rfl
    rw [stripPrefix_eq_some_iff, ← String.toList_inj, htext, String.toList_append,
      String.toList_ofList]
  have hnone : ∀ pat, ¬ pat.toList <+: lead ++ digits →
      stripPrefix pat (trim addr) = none := by
    intro pat hno
    rw [← Option.not_isSome_iff_eq_none, ← startsWith, startsWith_iff, htext]
    exact hno
  simp only [List.mem_cons, List.not_mem_nil, or_false] at hlead
  unfold parseLoopbackPort
  dsimp only
  rcases hlead with rfl | rfl | rfl
  · have hno : ∀ pat : String, ':' ∈ pat.toList → ¬ pat.toList <+: digits :=
      fun pat hpat hpre => hport.notMem rfl (hpre.subset hpat)
    have hcolon : ':' ∉ (trim addr).toList := htext ▸ hport.notMem rfl
    rw [hnone _ (hno "127.0.0.1:" (by decide)), hnone _ (hno "localhost:" (by decide))]
    rw [if_pos hcolon, hdigits _ htext]
  · rw [hfound "127.0.0.1:" rfl]
    exact hdigits _ String.toList_ofList
  · have hno : ¬ "127.0.0.1:".toList <+: "localhost:".toList ++ digits := by
      rintro ⟨rest, hrest⟩
      have hhead := congrArg List.head? hrest
      simp at hhead
    rw [hnone _ hno, hfound "localhost:" rfl]
    exact hdigits _ String.toList_ofList

end ListenAddr

namespace ListenAddr

variable {addr : String} {text : List Char}

/-- A documented form, with its scheme taken away. -/
lemma of_documented (hdocumented : Documented addr) (htext : (trim addr).toList = text) :
    ∃ n m p, n + m ≤ 1 ∧ Listed p (stripSchemes text) ∧
      text = schemes n m ++ stripSchemes text := by
  obtain ⟨scheme, hscheme, p, s, hlisted, heq⟩ := hdocumented
  obtain ⟨n, m, hle, rfl⟩ := mem_schemes_iff.mp hscheme
  rw [htext] at heq
  have hstrip : stripSchemes text = s := heq ▸ stripSchemes_append hlisted.head?_ne n m
  exact ⟨n, m, p, hle, hstrip ▸ hlisted, hstrip ▸ heq⟩

lemma notMem_of_documented {c : Char} (hdocumented : Documented addr) (hc : c.isDigit = false)
    (hnone : ∀ text ∈ [[], http, https] ++ "[]:".toList :: loopbackHosts, c ∉ text) :
    c ∉ (trim addr).toList := by
  obtain ⟨scheme, hscheme, p, s, hlisted, htext⟩ := hdocumented
  have hscheme := hnone scheme (List.mem_append_left _ hscheme)
  have hsigns := hnone _ (List.mem_append_right _ List.mem_cons_self)
  have hhosts : ∀ host ∈ loopbackHosts, c ∉ host := fun host hhost =>
    hnone host (List.mem_append_right _ (List.mem_cons_of_mem _ hhost))
  have hown := hhosts "::1".toList (by decide)
  cases hlisted with
  | bare hport => simp [htext, hscheme, hport.notMem hc]
  | plain hhost hport => simp_all [hport.notMem hc]
  | bracketed hport => simp_all [hport.notMem hc]

/-- Where the check and the documentation agree, the text has none of the shapes. -/
lemma not_misjudged_of_iff (htext : (trim addr).toList = text)
    (hiff : ensureLoopbackListenAddr addr = .ok () ↔ Documented addr) : ¬ Misjudged text := by
  rw [ensure_eq_ok_iff, htext] at hiff
  intro hmisjudged
  cases hmisjudged with
  | @signed digits p hport =>
    have hcolon : ':' ∉ '+' :: digits := by simp [hport.notMem]
    have hparse := parsePort_eq_some_iff.mpr ⟨digits, hport, .inr htext⟩
    have hdocumented := hiff.mp (.inl ⟨hcolon, p, hparse⟩)
    have hplus := notMem_of_documented (c := '+') hdocumented rfl (by decide)
    exact hplus (htext ▸ List.mem_cons_self)
  | @schemePort scheme digits p hscheme hport =>
    have hmem := List.mem_cons_of_mem [] hscheme
    have hschemes : ∀ scheme ∈ [http, https], ':' ∈ scheme := by decide
    obtain ⟨n, m, -, rfl⟩ := mem_schemes_iff.mp hmem
    have hlisted := Listed.bare hport
    rcases hiff.mpr ⟨_, hmem, p, digits, hlisted, htext⟩ with ⟨hcolon, -⟩ | ⟨-, hhosted⟩
    · exact hcolon (List.mem_append_left _ (hschemes _ hscheme))
    · rw [stripSchemes_append hlisted.head?_ne] at hhosted
      exact hhosted.not_isPort hport
  | @repeated n m s htwo hhosted =>
    have hstrip := stripSchemes_append hhosted.head?_ne n m
    have hcolon : ':' ∈ schemes n m := colon_mem_schemes (Nat.le_of_succ_le htwo)
    have hdocumented := hiff.mp (.inr ⟨List.mem_append_left _ hcolon, hstrip.symm ▸ hhosted⟩)
    obtain ⟨i, j, p, hle, -, heq⟩ := of_documented hdocumented htext
    rw [hstrip] at heq
    have hlength := congrArg List.length (List.append_cancel_right heq)
    rw [length_schemes, length_schemes] at hlength
    omega
  | @portless n m s hportless hcolon =>
    have hhosted := hportless.hosted
    have hstrip := stripSchemes_append hhosted.head?_ne n m
    have hdocumented := hiff.mp (.inr ⟨hcolon, hstrip.symm ▸ hhosted⟩)
    obtain ⟨-, -, p, -, hlisted, -⟩ := of_documented hdocumented htext
    rw [hstrip] at hlisted
    exact hportless.not_listed hlisted

lemma documented_of_ok (htext : (trim addr).toList = text) (hnot : ¬ Misjudged text)
    (hok : ensureLoopbackListenAddr addr = .ok ()) : Documented addr := by
  rw [ensure_eq_ok_iff, htext] at hok
  rcases hok with ⟨-, p, hparse⟩ | ⟨hcolon, hhosted⟩
  · obtain ⟨digits, hport, hchars | hchars⟩ := parsePort_eq_some_iff.mp hparse
    · exact ⟨[], List.mem_cons_self, p, digits, .bare hport, hchars⟩
    · exact absurd (.signed hport) (htext.symm.trans hchars ▸ hnot)
  · obtain ⟨n, m, heq⟩ := exists_schemes text
    by_cases htwo : 2 ≤ n + m
    · exact absurd (heq ▸ .repeated htwo hhosted) hnot
    · rcases hhosted.cases with hportless | ⟨p, hlisted⟩
      · exact absurd (heq ▸ .portless hportless (heq ▸ hcolon)) hnot
      · exact ⟨_, mem_schemes_iff.mpr ⟨n, m, by omega, rfl⟩, p, _, hlisted, htext.trans heq⟩

lemma ok_of_documented (htext : (trim addr).toList = text) (hnot : ¬ Misjudged text)
    (hdocumented : Documented addr) : ensureLoopbackListenAddr addr = .ok () := by
  obtain ⟨scheme, hscheme, p, s, hlisted, heq⟩ := hdocumented
  rw [ensure_eq_ok_iff, htext]
  obtain rfl := htext.symm.trans heq
  rcases hlisted.cases with hport | ⟨hcolon, hhosted⟩
  · rcases List.mem_cons.mp hscheme with rfl | hscheme
    · exact .inl ⟨hport.notMem rfl, p, parsePort_eq_some_iff.mpr ⟨s, hport, .inl htext⟩⟩
    · exact absurd (.schemePort hscheme hport) hnot
  · obtain ⟨n, m, -, rfl⟩ := mem_schemes_iff.mp hscheme
    rw [stripSchemes_append hhosted.head?_ne]
    exact .inr ⟨List.mem_append_right _ hcolon, hhosted⟩

end ListenAddr

/-- The check and the documentation agree except about the four kinds of text;
the port of a canonical form is always found. -/
theorem ensureLoopbackListenAddr_documented_iff (addr : String) :
    ((ensureLoopbackListenAddr addr = .ok () ↔ Documented addr) ∧
      ∀ lead ∈ [[], "127.0.0.1:".toList, "localhost:".toList], ∀ digits p, IsPort digits p →
        (trim addr).toList = lead ++ digits → parseLoopbackPort addr = some p) ↔
      ¬ Misjudged (trim addr).toList := by
  constructor
  · rintro ⟨hiff, -⟩
    exact not_misjudged_of_iff rfl hiff
  · intro hnot
    exact ⟨⟨documented_of_ok rfl hnot, ok_of_documented rfl hnot⟩,
      fun lead hlead digits p => parseLoopbackPort_eq hlead⟩

/-- No port is asked for behind a host. -/
theorem ensureLoopbackListenAddr_no_port :
    ensureLoopbackListenAddr "127.0.0.1:x" = .ok () ∧ ¬ Documented "127.0.0.1:x" := by
  refine ⟨by decide, fun hdocumented => ?_⟩
  exact notMem_of_documented (c := 'x') hdocumented rfl (by decide) (by decide)

end IlinkHub
