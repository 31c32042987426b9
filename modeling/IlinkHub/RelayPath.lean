/-
The paths that the relay may ask of the local hub (`is_allowed_relay_path`,
`relay/device.rs`), and the paths that the hub is asked for then: `reqwest` parses
the base URL with the path behind it as a URL.
-/
import Mathlib.Data.Bool.AllAny
import IlinkHub.UrlPath

namespace IlinkHub

open Text UrlPath

section Decoding

def hexValue (byte : UInt8) : Option UInt8 :=
  if 48 ≤ byte ∧ byte ≤ 57 then some (byte - 48)
  else if 65 ≤ byte ∧ byte ≤ 70 then some (byte - 55)
  else if 97 ≤ byte ∧ byte ≤ 102 then some (byte - 87)
  else none

/-- The byte that an escape at this place stands for. -/
def escaped (byte : UInt8) (rest : List UInt8) : Option UInt8 :=
  match rest with
  | high :: low :: _ =>
    if byte = 37 then
      match hexValue high, hexValue low with
      | some high, some low => some (high * 16 + low)
      | _, _ => none
    else none
  | _ => none

/-- Percent-decoding; `skip` bytes belong to the last escape. -/
def percentDecodeFrom : Nat → List UInt8 → List UInt8
  | _, [] => []
  | skip + 1, _ :: rest => percentDecodeFrom skip rest
  | 0, byte :: rest =>
    match escaped byte rest with
    | some value => value :: percentDecodeFrom 2 rest
    | none => byte :: percentDecodeFrom 0 rest

/-- `percent_decode_str`. -/
def percentDecode (bytes : List UInt8) : List UInt8 :=
  percentDecodeFrom 0 bytes

lemma escaped_append {byte mark : UInt8} (hmark : hexValue mark = none) (front rest : List UInt8) :
    escaped byte (front ++ mark :: rest) = escaped byte front ∧
      (escaped byte front ≠ none → 2 ≤ front.length) := by
  match front with
  | [] => cases rest <;> simp [escaped, hmark]
  | [high] => cases hhigh : hexValue high <;> simp [escaped, hmark, hhigh]
  | high :: low :: more => simp [escaped]

/-- No escape reaches over a byte that is no hexadecimal digit. -/
lemma percentDecodeFrom_append {mark : UInt8} (hmark : hexValue mark = none)
    (rest : List UInt8) {skip : Nat} {front : List UInt8} (hskip : skip ≤ front.length) :
    percentDecodeFrom skip (front ++ mark :: rest) =
      percentDecodeFrom skip front ++ percentDecodeFrom 0 (mark :: rest) := by
  induction front generalizing skip with
  | nil =>
    obtain rfl := Nat.le_zero.mp hskip
    rfl
  | cons byte front ih =>
    cases skip with
    | succ skip => exact ih (Nat.le_of_succ_le_succ hskip)
    | zero =>
      obtain ⟨hsame, hlong⟩ := @escaped_append byte mark hmark front rest
      rw [List.cons_append, percentDecodeFrom, percentDecodeFrom, hsame]
      split
      · next hvalue => rw [ih (hlong (by simp [hvalue])), List.cons_append]
      · rw [ih (Nat.zero_le _), List.cons_append]

lemma eq_of_toLower {c small : Char} (heq : c.toLower = small)
    (hsmall : small.toNat < 97) : c = small := by
  rcases toLower_cases c with hsame | ⟨hlow, -, hnat⟩
  · exact hsame.symm.trans heq
  · rw [heq] at hnat
    omega

/-- A dot segment in any spelling is decoded to a dot, whatever is behind it. -/
lemma decoded_of_isSingleDot {segment : List Char} (hdot : isSingleDot segment = true) :
    ∃ mark more, utf8Bytes segment = mark :: more ∧ hexValue mark = none ∧
      ∀ rest, percentDecodeFrom 0 (mark :: more ++ rest) = 46 :: percentDecodeFrom 0 rest := by
  simp only [isSingleDot, Bool.or_eq_true, decide_eq_true_eq, List.map_eq_cons_iff,
    List.map_eq_nil_iff] at hdot
  rcases hdot with ⟨c, _, rfl, hc, rfl⟩ |
    ⟨percent, _, rfl, hpercent, two, _, rfl, htwo, c, _, rfl, hc, rfl⟩
  · obtain rfl := eq_of_toLower hc (by decide)
    refine ⟨46, [], by decide, by decide, fun rest => ?_⟩
    have hplain : escaped 46 rest = none := by
      unfold escaped
      split <;> rfl
    rw [List.singleton_append, percentDecodeFrom, hplain]
  · obtain rfl := eq_of_toLower hpercent (by decide)
    obtain rfl := eq_of_toLower htwo (by decide)
    rcases toLower_cases c with hsame | ⟨-, -, hnat⟩
    · obtain rfl := hsame.symm.trans hc
      exact ⟨37, [50, 101], by decide, by decide, fun rest => rfl⟩
    · rw [hc] at hnat
      obtain rfl : c = 'E' := Char.toNat_inj.mp (Nat.add_right_cancel hnat.symm)
      exact ⟨37, [50, 69], by decide, by decide, fun rest => rfl⟩

/-- The search of the filter finds every segment of two dots that stands in the
text as it is, in any spelling. -/
lemma dots_of_isDoubleDot {segment text : List Char} (hdots : isDoubleDot segment = true)
    (hstands : segment <:+: text) : [46, 46] <:+: percentDecode (utf8Bytes text) := by
  obtain ⟨first, second, rfl, hfirst, hsecond⟩ := of_isDoubleDot hdots
  obtain ⟨front, back, rfl⟩ := hstands
  obtain ⟨mark, more, hbytes, hmark, hdot⟩ := decoded_of_isSingleDot hfirst
  obtain ⟨_, _, hnext, -, hagain⟩ := decoded_of_isSingleDot hsecond
  have hsplit : utf8Bytes (front ++ (first ++ second) ++ back) =
      utf8Bytes front ++ (mark :: more ++ (utf8Bytes second ++ utf8Bytes back)) := by
    simp only [utf8Bytes, List.flatMap_append, List.append_assoc] at hbytes ⊢
    rw [hbytes]
  rw [hsplit, percentDecode, List.cons_append, percentDecodeFrom_append hmark _ (Nat.zero_le _),
    ← List.cons_append, hdot, hnext, hagain]
  exact ⟨_, _, by rw [List.append_assoc]; rfl⟩

end Decoding

/-- The lossy decoding keeps all ASCII bytes and drops no other, so that two dots
in a row are two such bytes in a row. -/
def isAllowedRelayPath (path : String) : Bool :=
  if startsWith "/" path = false then false
  else if startsWith "//" path then false
  else if contains "?" path || contains "#" path then false
  else if contains ".." path ||
      decide ([46, 46] <:+: percentDecode (utf8Bytes path.toList)) then false
  else startsWith "/hub/pair/" path

/-- The address in the base URL of the hub. -/
structure HubAddress where
  text : String
  plain : ∀ c ∈ text.toList, isC0OrSpace c = false ∧ endsAuthority c = false

/-- The URL that `forward_to_hub` asks for. -/
def hubUrl (hub : HubAddress) (path : String) : String :=
  "http://" ++ hub.text ++ path

/-- The directory of the pairing endpoints. -/
def pairingBase : List (List Char) :=
  ["hub".toList, "pair".toList]

/-- The request goes to a path that starts with `/hub/pair/`. -/
def Confined (hub : HubAddress) (path : String) : Prop :=
  Below pairingBase (pathOf (hubUrl hub path).toList)

/-- The segments behind `/hub/pair/`, as the parser sees them. -/
def pairingSegments (path : String) : List (List Char) :=
  segments (cleanedEnd (path.toList.drop "/hub/pair/".length))

/-- The same with the tabs and line breaks that the parser drops. -/
def rawSegments (path : String) : List (List Char) :=
  segments (trimmedEnd (path.toList.drop "/hub/pair/".length))

section Accepted

variable {path : String}

lemma contains_mark_iff {mark : String} {c : Char} (hmark : mark.toList = [c]) :
    contains mark path = true ↔ c ∈ path.toList := by
  rw [contains_iff, hmark]
  constructor
  · rintro ⟨front, back, heq⟩
    rw [← heq]
    simp
  · intro hmem
    obtain ⟨front, back, heq⟩ := List.append_of_mem hmem
    exact ⟨front, back, by simp [heq]⟩

lemma of_isAllowedRelayPath (hallowed : isAllowedRelayPath path = true) :
    "/hub/pair/".toList <+: path.toList ∧ (∀ c ∈ path.toList, c ≠ '?' ∧ c ≠ '#') ∧
      ¬ [46, 46] <:+: percentDecode (utf8Bytes path.toList) := by
  unfold isAllowedRelayPath at hallowed
  split at hallowed
  · cases hallowed
  · split at hallowed
    · cases hallowed
    · split at hallowed
      · cases hallowed
      · next hmarks =>
        rw [Bool.or_eq_true, not_or, contains_mark_iff (by decide : "?".toList = ['?']),
          contains_mark_iff (by decide : "#".toList = ['#'])] at hmarks
        split at hallowed
        · cases hallowed
        · next hdots =>
          rw [Bool.or_eq_true, not_or, decide_eq_true_iff] at hdots
          exact ⟨startsWith_iff.mp hallowed, fun c hc => ⟨fun heq => hmarks.1 (heq ▸ hc),
            fun heq => hmarks.2 (heq ▸ hc)⟩, hdots.2⟩

lemma segments_pairing (rest : List Char) :
    segments ("hub/pair/".toList ++ rest) = "hub".toList :: "pair".toList :: segments rest := by
  have hchars : "hub/pair/".toList = ['h', 'u', 'b', '/', 'p', 'a', 'i', 'r', '/'] := by decide
  have hnames : "hub".toList = ['h', 'u', 'b'] ∧ "pair".toList = ['p', 'a', 'i', 'r'] := by decide
  rfl

/-- What the hub is asked for. -/
lemma pathOf_hubUrl (hub : HubAddress) (hallowed : isAllowedRelayPath path = true) : pathOf
    (hubUrl hub path).toList = resolve pairingBase (pairingSegments path) := by
  obtain ⟨⟨rest, hrest⟩, hplain, -⟩ := of_isAllowedRelayPath hallowed
  have hlength : "/hub/pair/".length = "/hub/pair/".toList.length := by decide
  have hsegments : pairingSegments path = segments (cleanedEnd rest) := by
    rw [pairingSegments, ← hrest, hlength, List.drop_left]
  have hhttp : ∀ c ∈ "http://".toList, isC0OrSpace c = false :=
    List.all_iff_forall_prop.mp (by decide)
  have hdirectory : ∀ c ∈ "/hub/pair/".toList,
      isC0OrSpace c = false := List.all_iff_forall_prop.mp (by decide)
  have hunmarked : ∀ c ∈ "hub/pair/".toList, c ≠ '?' ∧ c ≠ '#' :=
    List.all_iff_forall_prop.mp (by decide)
  have hcleaned : cleaned (hubUrl hub path).toList = "http://".toList ++ (hub.text.toList ++
        '/' :: ("hub/pair/".toList ++ cleanedEnd rest)) := by
    have hfront := @cleaned_append ("http://".toList ++ hub.text.toList ++ "/hub/pair/".toList)
      (by simp) (by
        intro c hc
        simp only [List.append_assoc, List.mem_append] at hc
        rcases hc with hscheme | hhost | hpath
        · exact hhttp c hscheme
        · exact (hub.plain c hhost).1
        · exact hdirectory c hpath) rest
    rw [hubUrl, String.toList_append, String.toList_append, ← hrest, ← List.append_assoc, hfront]
    simp
  have hmarks : ∀ c ∈ "hub/pair/".toList ++ cleanedEnd rest, c ≠ '?' ∧ c ≠ '#' := by
    intro c hc
    rcases List.mem_append.mp hc with hdir | hend
    · exact hunmarked c hdir
    · apply hplain c
      rw [← hrest]
      exact List.mem_append_right _ (mem_of_mem_cleanedEnd hend)
  rw [pathOf_of_cleaned (fun c hc => (hub.plain c hc).2) hcleaned
    hmarks, hsegments, segments_pairing]
  obtain ⟨first, others, heq⟩ :=
    List.exists_cons_of_ne_nil (segments_ne_nil (cleanedEnd rest))
  have hbase : push (push [] "hub".toList) "pair".toList =
      pairingBase := by decide
  rw [heq, resolve, resolve, hbase]

lemma infix_of_mem_rawSegments {segment : List Char} (hmem : segment ∈ rawSegments path) :
    segment <:+: path.toList :=
  (infix_of_mem_segments hmem).trans
    ((isPrefix_trimmedEnd _).isInfix.trans (List.drop_suffix _ _).isInfix)

/-- The filter lets no segment of two dots pass, unless a tab or a line break
parts it. -/
lemma parted_of_isDoubleDot (hallowed : isAllowedRelayPath path = true) {segment : List Char}
    (hmem : segment ∈ rawSegments path) (hdots : isDoubleDot (stripped segment) = true) :
    Parted segment := by
  obtain ⟨-, -, hdecoded⟩ := of_isAllowedRelayPath hallowed
  by_contra hwhole
  have hstands := (isInfix_stripped hwhole).trans (infix_of_mem_rawSegments hmem)
  exact hdecoded (dots_of_isDoubleDot hdots hstands)

/-- An accepted path without tabs and line breaks leads to a pairing endpoint.
Any other one does unless a tab or a line break parts the two dots of a segment;
with such a segment it does exactly if, as the parser reads it, it names again
what it leaves of `/hub/pair/`. -/
theorem confined_iff (hub : HubAddress) (hallowed : isAllowedRelayPath path = true) :
    ((∀ c ∈ path.toList, isTabOrNewline c = false) → Confined hub path) ∧
      (Confined hub path ↔
        ((∃ segment ∈ rawSegments path, isDoubleDot (stripped segment) = true ∧ Parted segment) →
          ReturnsTo pairingBase (pairingSegments path))) := by
  have hbelow : Confined hub path ↔ ReturnsTo pairingBase (pairingSegments path) := by
    rw [Confined, pathOf_hubUrl hub hallowed]
    exact below_resolve_iff pairingBase (segments_ne_nil _)
  have hreturns : ReturnsTo pairingBase (pairingSegments path) ↔
      ((∃ segment ∈ rawSegments path, isDoubleDot (stripped segment) = true ∧ Parted segment) →
        ReturnsTo pairingBase (pairingSegments path)) := by
    refine ⟨fun hreturns _ => hreturns, fun hparted => ?_⟩
    by_cases hdots : ∃ segment ∈ rawSegments path, isDoubleDot (stripped segment) = true
    · obtain ⟨segment, hmem, hdouble⟩ := hdots
      exact hparted ⟨segment, hmem, hdouble, parted_of_isDoubleDot hallowed hmem hdouble⟩
    · refine returnsTo_of_forall _ fun segment hmem => ?_
      rw [pairingSegments, cleanedEnd, segments_stripped] at hmem
      obtain ⟨raw, hraw, rfl⟩ := List.mem_map.mp hmem
      exact Bool.eq_false_iff.mpr fun hdouble => hdots ⟨raw, hraw, hdouble⟩
  rw [hbelow]
  refine ⟨fun hplain => hreturns.mpr ?_, hreturns⟩
  rintro ⟨segment, hmem, -, front, c, back, rfl, hc, -, -⟩
  have hpath := (infix_of_mem_rawSegments hmem).mem (List.mem_append_right _ List.mem_cons_self)
  rw [hplain c hpath] at hc
  cases hc

end Accepted

section Tab

/-- The address that `hub_loopback_addr` gives for a local port. -/
def loopback : HubAddress where
  text := "127.0.0.1:8765"
  plain := List.all_iff_forall_prop.mp (by decide)

theorem confined_iff_of_tab :
    isAllowedRelayPath "/hub/pair/pair_abc/.\t./b" = true ∧
      ReturnsTo pairingBase (pairingSegments "/hub/pair/pair_abc/.\t./b") ∧
      Confined loopback "/hub/pair/pair_abc/.\t./b" := by
  have hallowed : isAllowedRelayPath "/hub/pair/pair_abc/.\t./b" = true := by
    decide +kernel
  have hreturns : ReturnsTo pairingBase (pairingSegments "/hub/pair/pair_abc/.\t./b") := by
    decide +kernel
  exact ⟨hallowed, hreturns, (confined_iff loopback hallowed).2.mpr fun _ => hreturns⟩

/-- The parser drops the tab between two dots after the filter has read them. -/
theorem not_confined_of_tab :
    isAllowedRelayPath "/hub/pair/.\t./clients" = true ∧
      pathOf (hubUrl loopback "/hub/pair/.\t./clients").toList = ["hub".toList, "clients".toList] ∧
      ¬ Confined loopback "/hub/pair/.\t./clients" := by
  have hpath : pathOf (hubUrl loopback "/hub/pair/.\t./clients").toList =
        ["hub".toList, "clients".toList] := by decide +kernel
  refine ⟨by decide +kernel, hpath, ?_⟩
  rintro ⟨more, hmore, heq⟩
  rw [hpath] at heq
  have hlength := congrArg List.length heq
  have hmany := List.length_pos_of_ne_nil hmore
  simp only [pairingBase, List.length_append, List.length_cons] at hlength
  omega

end Tab

end IlinkHub
