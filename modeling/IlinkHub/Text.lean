/-
The string operations of the Rust standard library that the development uses,
on the character list of a string: trimming by the Unicode `White_Space`
property, splitting at a pattern, and the decimal parsers of the integers.
-/
import Mathlib.Algebra.Group.Int.Defs
import Mathlib.Algebra.Group.Nat.Defs
import Mathlib.Data.List.DropRight
import Mathlib.Data.List.TakeDrop

namespace Text

/-- The Unicode `White_Space` property, which is what `char::is_whitespace`
tests. -/
def isWhitespace (c : Char) : Bool :=
  (0x09 ≤ c.toNat && c.toNat ≤ 0x0D) || c.toNat == 0x20 || c.toNat == 0x85 || c.toNat == 0xA0 ||
    c.toNat == 0x1680 || (0x2000 ≤ c.toNat && c.toNat ≤ 0x200A) || c.toNat == 0x2028 || c.toNat ==
    0x2029 || c.toNat == 0x202F || c.toNat == 0x205F || c.toNat == 0x3000

/-- `str::trim`. -/
def trim (s : String) : String :=
  String.ofList ((s.toList.dropWhile isWhitespace).rdropWhile isWhitespace)

/-- The bytes of a text, which is what `str::bytes` and `str::len` go by. -/
def utf8Bytes (text : List Char) : List UInt8 :=
  text.flatMap String.utf8EncodeChar

/-- `str::to_ascii_lowercase`; `Char.toLower` maps the letters A to Z only. -/
def toAsciiLowercase (s : String) : String :=
  String.ofList (s.toList.map Char.toLower)

/-- `str::eq_ignore_ascii_case`. -/
def eqIgnoreAsciiCase (left right : String) : Bool :=
  toAsciiLowercase left == toAsciiLowercase right

/-- `str::trim_start`. -/
def trimStart (s : String) : String :=
  String.ofList (s.toList.dropWhile isWhitespace)

/-- `str::strip_prefix`. -/
def stripPrefix (pat s : String) : Option String :=
  (s.toList.dropPrefix? pat.toList).map String.ofList

/-- `str::starts_with`. -/
def startsWith (pat s : String) : Bool :=
  (stripPrefix pat s).isSome

/-- What follows the last occurrence of a pattern: `str::rfind` and the slice
behind the match. -/
def afterLast (pat s : String) : Option String :=
  (go s.toList).map String.ofList
where
  go : List Char → Option (List Char)
    | [] => [].dropPrefix? pat.toList
    | c :: rest => (go rest).or ((c :: rest).dropPrefix? pat.toList)

/-- `str::split` at a pattern that is not empty: the matches are taken from the
left and do not overlap.  `skip` characters belong to the last match. -/
def splitOn (pat s : String) : List String :=
  (go 0 [] s.toList).map fun part => String.ofList part.reverse
where
  go : Nat → List Char → List Char → List (List Char)
    | _, part, [] => [part]
    | skip + 1, part, _ :: rest => go skip part rest
    | 0, part, c :: rest =>
      if pat.toList.isPrefixOf (c :: rest) then
        part :: go (pat.toList.length - 1) [] rest
      else go 0 (c :: part) rest

/-- `str::split_once`: the parts before and after the first match. -/
def splitOnce (pat s : String) : Option (String × String) :=
  (go [] s.toList).map fun parts =>
    (String.ofList parts.1.reverse, String.ofList parts.2)
where
  go : List Char → List Char → Option (List Char × List Char)
    | front, [] => ([].dropPrefix? pat.toList).map (front, ·)
    | front, c :: rest =>
      match (c :: rest).dropPrefix? pat.toList with
      | some back => some (front, back)
      | none => go (c :: front) rest

/-- `str::replace` of a character. -/
def replaceChar (c : Char) (text s : String) : String :=
  String.ofList (s.toList.flatMap fun d => if d = c then text.toList else [d])

/-- `str::contains`. -/
def contains (pat s : String) : Bool :=
  (splitOnce pat s).isSome

/-- Cut before the first character of a kind. -/
def cutAt (p : Char → Bool) (s : String) : String × String :=
  let parts := s.toList.span fun c => !p c
  (String.ofList parts.1, String.ofList parts.2)

/-- `s.trim().is_empty()`. -/
def isBlank (s : String) : Bool :=
  trim s == ""

/-- `str::parse` at an unsigned type of the given number of bits: an optional
`+`, at least one ASCII digit, nothing else, and a value that fits. -/
def parseUnsigned (bits : Nat) (s : String) : Option Nat :=
  let digits := match s.toList with
    | '+' :: rest => rest
    | chars => chars
  if digits ≠ [] ∧ digits.all Char.isDigit ∧ Nat.ofDigitChars 10 digits 0 < 2 ^ bits then
    some (Nat.ofDigitChars 10 digits 0)
  else
    none

/-- `str::parse` at a signed type: also a `-`, and a value in range. -/
def parseSigned (bits : Nat) (s : String) : Option Int :=
  match s.toList with
  | '-' :: digits =>
    if digits ≠ [] ∧ digits.all Char.isDigit ∧ Nat.ofDigitChars 10 digits 0 ≤ 2 ^ (bits - 1) then
      some (-(Nat.ofDigitChars 10 digits 0 : Int))
    else none
  | _ => (parseUnsigned (bits - 1) s).map Int.ofNat

lemma toList_toAsciiLowercase (s : String) :
    (toAsciiLowercase s).toList = s.toList.map Char.toLower :=
  String.toList_ofList

lemma toLower_cases (c : Char) :
    c.toLower = c ∨ (65 ≤ c.toNat ∧ c.toNat ≤ 90 ∧ c.toLower.toNat = c.toNat + 32) := by
  unfold Char.toLower
  split
  · next hupper =>
    have hlow := hupper.1
    have hhigh : c.toNat ≤ 90 := hupper.2
    have hsum : (c.val + 32).toNat = (c.toNat + 32) % 4294967296 :=
      UInt32.toNat_add c.val 32
    exact .inr ⟨hlow, hhigh, hsum.trans (by omega)⟩
  · exact .inl rfl

lemma isWhitespace_toLower (c : Char) : isWhitespace c.toLower = isWhitespace c := by
  rcases toLower_cases c with hsame | ⟨hlow, hhigh, hnat⟩
  · rw [hsame]
  · rw [Bool.eq_iff_iff]
    simp only [isWhitespace, Bool.or_eq_true, Bool.and_eq_true, decide_eq_true_eq, beq_iff_eq]
    omega

lemma isWhitespace_eq_false_of_isDigit {c : Char} (hdigit : c.isDigit) :
    isWhitespace c = false := by
  have hrange : 48 ≤ c.toNat ∧ c.toNat ≤ 57 := by
    simpa [Char.isDigit, UInt32.le_iff_toNat_le] using hdigit
  simp only [isWhitespace, Bool.or_eq_false_iff, Bool.and_eq_false_imp,
    decide_eq_true_eq, decide_eq_false_iff_not, beq_eq_false_iff_ne]
  omega

variable {s : String}

lemma trim_eq_self (hnone : ∀ c ∈ s.toList, isWhitespace c = false) : trim s = s := by
  have hfront : s.toList.dropWhile isWhitespace = s.toList := by
    cases hchars : s.toList with
    | nil => rfl
    | cons c rest =>
      have hhead := hnone c (by simp [hchars])
      simp [hhead]
  have hback : s.toList.rdropWhile isWhitespace = s.toList := by
    rw [List.rdropWhile_eq_self_iff]
    intro hne
    simp [hnone _ (List.getLast_mem hne)]
  rw [trim, hfront, hback, String.ofList_toList]

lemma trim_trim (s : String) : trim (trim s) = trim s := by
  have hfront : ∀ front : List Char, front.dropWhile isWhitespace = front →
        (front.rdropWhile isWhitespace).dropWhile isWhitespace =
          front.rdropWhile isWhitespace := by
    intro front hkept
    obtain ⟨rest, hrest⟩ := List.rdropWhile_prefix isWhitespace front
    cases hback : front.rdropWhile isWhitespace with
    | nil => rfl
    | cons c back =>
      -- The first character stays, since it is the first one of `front`.
      rw [hback] at hrest
      rw [← hrest, List.cons_append, List.dropWhile_cons] at hkept
      cases hc : isWhitespace c with
      | false => rw [List.dropWhile_cons_of_neg (by simp [hc])]
      | true =>
        rw [if_pos hc] at hkept
        have hlength := (List.dropWhile_suffix isWhitespace (l := back ++ rest)).length_le
        rw [hkept, List.length_cons] at hlength
        omega
  unfold trim
  rw [String.toList_ofList, hfront _ (List.dropWhile_idempotent _ _), List.rdropWhile_idempotent]

lemma trim_eq_empty_iff : trim s = "" ↔ ∀ c ∈ s.toList, isWhitespace c = true := by
  rw [trim, String.ofList_eq_empty_iff, List.rdropWhile_eq_nil_iff]
  constructor
  · intro hrest
    rw [← List.dropWhile_eq_nil_iff]
    by_contra hne
    have hhead := List.head_dropWhile_not isWhitespace hne
    simp [hrest _ (List.head_mem hne)] at hhead
  · intro hall c hc
    exact hall c ((List.dropWhile_suffix _).mem hc)

lemma trim_toString (n : Nat) : trim (toString n) = toString n := by
  apply trim_eq_self
  intro c hc
  rw [Nat.toString_eq_repr, Nat.toList_repr] at hc
  exact isWhitespace_eq_false_of_isDigit (Nat.isDigit_of_mem_toDigits (by omega) (by omega) hc)

lemma parseUnsigned_of_isDigit (bits : Nat)
    (hdigits : ∀ c ∈ s.toList, c.isDigit = true) : parseUnsigned bits s =
      if s.toList ≠ [] ∧ Nat.ofDigitChars 10 s.toList 0 < 2 ^ bits then
        some (Nat.ofDigitChars 10 s.toList 0)
      else none := by
  have hstrip : (match s.toList with
      | '+' :: rest => rest
      | chars => chars) = s.toList := by
    split
    · next rest heq =>
      have hplus := hdigits '+' (by rw [heq]; exact List.mem_cons_self)
      simp at hplus
    · rfl
  have hall := List.all_eq_true.mpr hdigits
  rw [parseUnsigned, hstrip]
  simp [hall]

lemma parseUnsigned_toString_eq (bits n : Nat) :
    parseUnsigned bits (toString n) = if n < 2 ^ bits then some n else none := by
  rw [parseUnsigned_of_isDigit, Nat.toString_eq_repr]
  · simp
  · intro c hc
    rw [Nat.toString_eq_repr, Nat.toList_repr] at hc
    exact Nat.isDigit_of_mem_toDigits (by omega) (by omega) hc

lemma parseUnsigned_eq_some_iff {bits n : Nat} :
    parseUnsigned bits s = some n ↔ ∃ digits, (s.toList = digits ∨ s.toList = '+' :: digits) ∧
      digits ≠ [] ∧ (∀ c ∈ digits, c.isDigit = true) ∧ Nat.ofDigitChars 10 digits 0 = n ∧
        n < 2 ^ bits := by
  constructor
  · intro hparse
    simp only [parseUnsigned, Option.ite_none_right_eq_some, Option.some.injEq] at hparse
    obtain ⟨⟨hne, hall, hfits⟩, hvalue⟩ := hparse
    refine ⟨_, ?_, hne, List.all_eq_true.mp hall, hvalue, hvalue ▸ hfits⟩
    split
    · next rest hchars => exact .inr hchars
    · exact .inl rfl
  · rintro ⟨digits, hchars | hchars, hne, hall, rfl, hfits⟩
    · rw [parseUnsigned_of_isDigit bits (hchars ▸ hall), hchars, if_pos ⟨hne, hfits⟩]
    · rw [parseUnsigned, hchars]
      exact if_pos ⟨hne, List.all_eq_true.mpr hall, hfits⟩

lemma parseUnsigned_toString {bits n : Nat} (hfits : n < 2 ^ bits) :
    parseUnsigned bits (toString n) = some n := by
  rw [parseUnsigned_toString_eq, if_pos hfits]

section Digits

/-- The last digits of a number, exactly as many as asked for. -/
def fixedDigits : Nat → Nat → List Char
  | 0, _ => []
  | width + 1, n => fixedDigits width (n / 10) ++ [Nat.digitChar (n % 10)]

/-- All digits of a number, with zeros in front up to the width. -/
def paddedDigits (width n : Nat) : List Char :=
  List.replicate (width - (Nat.toDigits 10 n).length) '0' ++ Nat.toDigits 10 n

lemma length_fixedDigits (width n : Nat) : (fixedDigits width n).length = width := by
  induction width generalizing n with
  | zero => rfl
  | succ width ih =>
    rw [fixedDigits, List.length_append, ih, List.length_singleton]

lemma ofDigitChars_fixedDigits (width n : Nat) :
    Nat.ofDigitChars 10 (fixedDigits width n) 0 = n % 10 ^ width := by
  induction width generalizing n with
  | zero => simp [fixedDigits, Nat.mod_one]
  | succ width ih =>
    have hdigit := Nat.toNat_digitChar_of_lt_ten (Nat.mod_lt n (by decide : 10 > 0))
    rw [fixedDigits, Nat.ofDigitChars_append, ih, Nat.ofDigitChars_cons,
      pow_succ, mul_comm _ 10, Nat.mod_mul]
    simp only [Nat.ofDigitChars_nil, Char.reduceToNat]
    omega

lemma ofDigitChars_paddedDigits (width n : Nat) :
    Nat.ofDigitChars 10 (paddedDigits width n) 0 = n := by
  have hzeros : ∀ k, Nat.ofDigitChars 10 (List.replicate k '0') 0 = 0 := by
    intro k
    induction k with
    | zero => rfl
    | succ k ih =>
      exact ih
  rw [paddedDigits, Nat.ofDigitChars_append, hzeros, Nat.ofDigitChars_ten_toDigits]

lemma fixedDigits_inj {width n m : Nat} (hn : n < 10 ^ width) (hm : m < 10 ^ width)
    (heq : fixedDigits width n = fixedDigits width m) : n = m := by
  have hvalue := congrArg (fun digits => Nat.ofDigitChars 10 digits 0) heq
  simp only [ofDigitChars_fixedDigits, Nat.mod_eq_of_lt hn, Nat.mod_eq_of_lt hm] at hvalue
  exact hvalue

lemma paddedDigits_inj {width n m : Nat}
    (heq : paddedDigits width n = paddedDigits width m) : n = m := by
  have hvalue := congrArg (fun digits => Nat.ofDigitChars 10 digits 0) heq
  simp only [ofDigitChars_paddedDigits] at hvalue
  exact hvalue

lemma le_toNat_of_mem_fixedDigits {width n : Nat} {c : Char}
    (hc : c ∈ fixedDigits width n) : 48 ≤ c.toNat := by
  induction width generalizing n with
  | zero => cases hc
  | succ width ih =>
    rcases List.mem_append.mp hc with hc | hc
    · exact ih hc
    · rw [List.mem_singleton.mp hc, Nat.toNat_digitChar_of_lt_ten
        (Nat.mod_lt n (by decide : 10 > 0))]
      exact Nat.le_add_right 48 _

lemma isDigit_of_mem_fixedDigits {width n : Nat} {c : Char}
    (hc : c ∈ fixedDigits width n) : c.isDigit = true := by
  induction width generalizing n with
  | zero => cases hc
  | succ width ih =>
    rcases List.mem_append.mp hc with hc | hc
    · exact ih hc
    · rw [List.mem_singleton.mp hc, Nat.isDigit_digitChar]
      exact decide_eq_true (Nat.mod_lt n (by decide))

lemma utf8ByteSize_fixedDigits (width n : Nat) :
    (String.ofList (fixedDigits width n)).utf8ByteSize = width := by
  have hdigit : ∀ d, d < 10 → (String.ofList [Nat.digitChar d]).utf8ByteSize = 1 := by decide
  induction width generalizing n with
  | zero => rfl
  | succ width ih =>
    rw [fixedDigits, String.ofList_append, String.utf8ByteSize_append, ih,
      hdigit _ (Nat.mod_lt n (by decide))]

end Digits

section Separator

variable {c : Char} {pat : String} {others : List Char}

/-- A pattern of one character is matched wherever the character stands. -/
lemma splitOn_go_append (hpat : pat.toList = [c]) (part left right : List Char) :
    splitOn.go pat 0 part (left ++ c :: right) =
      splitOn.go pat 0 part left ++ splitOn.go pat 0 [] right := by
  induction left generalizing part with
  | nil => simp [splitOn.go, hpat]
  | cons d rest ih =>
    rw [List.cons_append, splitOn.go, splitOn.go]
    simp only [hpat, List.isPrefixOf, List.length_singleton, ih]
    split
    · rw [List.cons_append]
    · rfl

lemma splitOn_append (hpat : pat.toList = [c]) (left right : String) :
    splitOn pat (left ++ pat ++ right) = splitOn pat left ++ splitOn pat right := by
  rw [splitOn, String.toList_append, String.toList_append, hpat,
    List.append_assoc, List.singleton_append, splitOn_go_append hpat,
    List.map_append]
  rfl

/-- Where a character of the separator is missing, there is one part. -/
lemma splitOn_go_of_notMem (hpat : c ∈ pat.toList) (part : List Char) {chars : List Char}
    (hnone : c ∉ chars) : splitOn.go pat 0 part chars = [chars.reverse ++ part] := by
  induction chars generalizing part with
  | nil => rfl
  | cons d rest ih =>
    have hhere := fun hmatch => hnone ((List.isPrefixOf_iff_prefix.mp hmatch).subset hpat)
    rw [List.mem_cons, not_or] at hnone
    rw [splitOn.go, if_neg hhere, ih _ hnone.2, List.reverse_cons,
      List.append_assoc, List.singleton_append]

lemma splitOn_of_notMem (hpat : c ∈ pat.toList) {s : String}
    (hnone : c ∉ s.toList) : splitOn pat s = [s] := by
  rw [splitOn, splitOn_go_of_notMem hpat [] hnone]
  simp

/-- A separator of several characters is found behind a text in which its second
character does not occur. -/
lemma splitOn_go_first {d : Char}
    (hpat : pat.toList = c :: d :: others) (hne : d ≠ c) {front : List Char}
    (hfront : d ∉ front) (part rest : List Char) :
    splitOn.go pat 0 part (front ++ pat.toList ++ rest) =
      (front.reverse ++ part) :: splitOn.go pat 0 [] rest := by
  have hskip : ∀ skipped part rest, splitOn.go pat skipped.length part (skipped ++ rest) =
        splitOn.go pat 0 part rest := by
    intro skipped
    induction skipped with
    | nil => exact fun _ _ => rfl
    | cons e skipped ih =>
      intro part rest
      rw [List.length_cons, List.cons_append, splitOn.go, ih]
  induction front generalizing part with
  | nil =>
    have hhere : pat.toList.isPrefixOf (pat.toList ++ rest) = true :=
      List.isPrefixOf_iff_prefix.mpr (List.prefix_append _ _)
    rw [List.nil_append, hpat, List.cons_append, splitOn.go,
      ← List.cons_append, ← hpat, if_pos hhere, hpat, List.length_cons,
      Nat.add_sub_cancel, hskip]
    rfl
  | cons e front ih =>
    rw [List.mem_cons, not_or] at hfront
    have hhere : ¬ pat.toList.isPrefixOf (e :: (front ++ pat.toList ++ rest)) = true := by
      rw [hpat, List.isPrefixOf, Bool.and_eq_true]
      cases front with
      | nil => simp [hne]
      | cons f front =>
        have hf : d ≠ f := fun heq => hfront.2 (by simp [heq])
        simp [hf]
    rw [List.cons_append, List.cons_append, splitOn.go, if_neg hhere,
      ih hfront.2, List.reverse_cons, List.append_assoc,
      List.singleton_append]

lemma splitOn_first {d : Char} (hpat : pat.toList = c :: d :: others)
    (hne : d ≠ c) {front : String} (hfront : d ∉ front.toList) (rest : String) :
    splitOn pat (front ++ pat ++ rest) = front :: splitOn pat rest := by
  rw [splitOn, String.toList_append, String.toList_append,
    splitOn_go_first hpat hne hfront [] rest.toList, List.map_cons,
    List.append_nil, List.reverse_reverse, String.ofList_toList]
  rfl

lemma splitOn_intercalate {d : Char} (hpat : pat.toList = c :: d :: others)
    (hne : d ≠ c) {parts : List String} (hparts : parts ≠ [])
    (hnone : ∀ part ∈ parts, d ∉ part.toList) : splitOn pat (pat.intercalate parts) = parts := by
  have hmem : d ∈ pat.toList := by simp [hpat]
  induction parts with
  | nil => exact absurd rfl hparts
  | cons part rest ih =>
    obtain ⟨hpart, hrest⟩ := List.forall_mem_cons.mp hnone
    cases rest with
    | nil => exact splitOn_of_notMem hmem hpart
    | cons next rest =>
      rw [String.intercalate_cons_cons, splitOn_first hpat hne hpart,
        ih (List.cons_ne_nil _ _) hrest]

lemma splitOn_go_ne_nil (skip : Nat) (part chars : List Char) :
    splitOn.go pat skip part chars ≠ [] := by
  fun_induction splitOn.go pat skip part chars with
  | case1 => exact List.cons_ne_nil _ _
  | case2 _ _ _ _ ih => exact ih
  | case3 => exact List.cons_ne_nil _ _
  | case4 _ _ _ _ ih => exact ih

end Separator

example : parseUnsigned 64 (trim " +42\n") = some 42 := by decide

example : parseUnsigned 8 "256" = none ∧ parseUnsigned 64 "" = none ∧
    parseUnsigned 64 "-1" = none := by decide

example : splitOn " · " "a · b · " = ["a", "b", ""] ∧
    afterLast "--" "x---y" = some "y" ∧ parseSigned 64 "-7" = some (-7) := by
  decide

example : splitOnce "->" "a->b->c" = some ("a", "b->c") ∧ splitOnce "->" "a>b" = none := by decide

section Patterns

lemma dropPrefix?_isSome_iff {pat text : List Char} :
    (text.dropPrefix? pat).isSome = true ↔ pat <+: text := by
  rw [Option.isSome_iff_exists]
  constructor
  · rintro ⟨rest, hrest⟩
    obtain ⟨front, rfl, hfront⟩ := List.dropPrefix?_eq_some_iff.mp hrest
    rw [← eq_of_beq hfront]
    exact List.prefix_append front rest
  · rintro ⟨rest, rfl⟩
    exact ⟨rest, List.dropPrefix?_eq_some_iff.mpr ⟨pat, rfl, beq_self_eq_true pat⟩⟩

lemma startsWith_iff {pat s : String} : startsWith pat s = true ↔ pat.toList <+: s.toList := by
  rw [startsWith, stripPrefix, Option.isSome_map, dropPrefix?_isSome_iff]

lemma stripPrefix_eq_some_iff {pat s rest : String} :
    stripPrefix pat s = some rest ↔ s = pat ++ rest := by
  rw [stripPrefix, Option.map_eq_some_iff]
  constructor
  · rintro ⟨chars, hdrop, rfl⟩
    obtain ⟨front, hs, hfront⟩ := List.dropPrefix?_eq_some_iff.mp hdrop
    rw [← String.toList_inj, hs, eq_of_beq hfront, String.toList_append, String.toList_ofList]
  · rintro rfl
    refine ⟨rest.toList, ?_, String.ofList_toList⟩
    rw [String.toList_append]
    exact List.dropPrefix?_eq_some_iff.mpr ⟨pat.toList, rfl, beq_self_eq_true _⟩

lemma splitOnce_go_isSome_iff {pat : String} {front text : List Char} :
    (splitOnce.go pat front text).isSome = true ↔ pat.toList <:+: text := by
  induction text generalizing front with
  | nil =>
    rw [splitOnce.go, Option.isSome_map, dropPrefix?_isSome_iff, List.prefix_nil, List.infix_nil]
  | cons c rest ih =>
    rw [splitOnce.go, List.infix_cons_iff, ← dropPrefix?_isSome_iff]
    cases (c :: rest).dropPrefix? pat.toList with
    | none =>
      simp only [Option.isSome_none, Bool.false_eq_true, false_or]
      exact ih
    | some back => simp

lemma contains_iff {pat s : String} : contains pat s = true ↔ pat.toList <:+: s.toList := by
  rw [contains, splitOnce, Option.isSome_map, splitOnce_go_isSome_iff]

variable {pat : String}

/-- Nothing in front of the last match matters. -/
lemma afterLast_go_append {front back : List Char}
    (hback : (afterLast.go pat back).isSome = true) :
    afterLast.go pat (front ++ back) = afterLast.go pat back := by
  induction front with
  | nil => rfl
  | cons c front ih =>
    obtain ⟨rest, hrest⟩ := Option.isSome_iff_exists.mp hback
    rw [List.cons_append, afterLast.go, ih, hrest, Option.some_or]

lemma afterLast_go_isSome_iff {text : List Char} :
    (afterLast.go pat text).isSome = true ↔ pat.toList <:+: text := by
  induction text with
  | nil =>
    rw [afterLast.go, dropPrefix?_isSome_iff, List.prefix_nil, List.infix_nil]
  | cons c rest ih =>
    rw [afterLast.go, Option.isSome_or, Bool.or_eq_true, ih,
      dropPrefix?_isSome_iff, List.infix_cons_iff, or_comm]

lemma afterLast_eq_none_iff {s : String} : afterLast pat s = none ↔ ¬ pat.toList <:+: s.toList := by
  rw [afterLast, Option.map_eq_none_iff, ← afterLast_go_isSome_iff,
    Bool.not_eq_true, Option.isSome_eq_false_iff, Option.isNone_iff_eq_none]

end Patterns

section Trimming

lemma trim_eq_self_iff {s : String} :
    trim s = s ↔ (∀ c, s.toList.head? = some c → isWhitespace c = false) ∧
        ∀ c, s.toList.getLast? = some c → isWhitespace c = false := by
  have hstart : s.toList.dropWhile isWhitespace = s.toList ↔
      ∀ c, s.toList.head? = some c → isWhitespace c = false := by
    cases s.toList with
    | nil => simp
    | cons c rest => simp
  have hend : s.toList.rdropWhile isWhitespace = s.toList ↔
      ∀ c, s.toList.getLast? = some c → isWhitespace c = false := by
    rw [List.rdropWhile_eq_self_iff]
    constructor
    · intro hlast c hc
      obtain ⟨hne, rfl⟩ := List.mem_getLast?_eq_getLast hc
      simpa using hlast hne
    · intro hlast hne
      simpa using hlast _ (List.getLast?_eq_some_getLast hne)
  rw [← hstart, ← hend, trim]
  constructor
  · intro htrim
    have hlist : (s.toList.dropWhile isWhitespace).rdropWhile isWhitespace = s.toList := by
      rw [← String.toList_ofList (l := (s.toList.dropWhile
        isWhitespace).rdropWhile isWhitespace), htrim]
    have hfront : s.toList.dropWhile isWhitespace = s.toList := by
      apply (List.dropWhile_suffix isWhitespace).eq_of_length_le
      rw [← congrArg List.length hlist]
      exact (List.rdropWhile_prefix isWhitespace _).length_le
    rw [hfront] at hlist
    exact ⟨hfront, hlist⟩
  · rintro ⟨hfront, hback⟩
    rw [hfront, hback, String.ofList_toList]

/-- What stands between two trimmed texts is not trimmed away. -/
lemma trim_append {left right : String} (hleft : trim left = left)
    (hleftNe : left ≠ "") (hright : trim right = right) (hrightNe : right ≠ "") (middle : String) :
    trim (left ++ middle ++ right) = left ++ middle ++ right := by
  rw [trim_eq_self_iff] at hleft hright ⊢
  have hl : left.toList ≠ [] := by simpa using hleftNe
  have hr : right.toList ≠ [] := by simpa using hrightNe
  constructor
  · intro c hc
    rw [String.toList_append, String.toList_append, List.append_assoc,
      List.head?_append_of_ne_nil _ hl] at hc
    exact hleft.1 c hc
  · intro c hc
    rw [String.toList_append, List.getLast?_append_of_ne_nil _ hr] at hc
    exact hright.2 c hc

variable {c : Char}

lemma notMem_intercalate {sep : String} (hsep : c ∉ sep.toList) {parts : List String}
    (hparts : ∀ part ∈ parts, c ∉ part.toList) : c ∉ (sep.intercalate parts).toList := by
  induction parts with
  | nil => exact List.not_mem_nil
  | cons part rest ih =>
    obtain ⟨hpart, hrest⟩ := List.forall_mem_cons.mp hparts
    cases rest with
    | nil => exact hpart
    | cons next rest =>
      rw [String.intercalate_cons_cons, String.toList_append,
        String.toList_append, List.mem_append, List.mem_append, not_or,
        not_or]
      exact ⟨⟨hpart, hsep⟩, ih hrest⟩

lemma trim_intercalate {pat : String} {parts : List String} (hparts : parts ≠ [])
    (htrim : ∀ part ∈ parts, trim part = part ∧ part ≠ "") :
    trim (pat.intercalate parts) = pat.intercalate parts ∧ pat.intercalate parts ≠ "" := by
  induction parts with
  | nil => exact absurd rfl hparts
  | cons part rest ih =>
    obtain ⟨hpart, hrest⟩ := List.forall_mem_cons.mp htrim
    cases rest with
    | nil => exact hpart
    | cons next rest =>
      obtain ⟨hlast, hlastNe⟩ := ih (List.cons_ne_nil _ _) hrest
      rw [String.intercalate_cons_cons]
      refine ⟨trim_append hpart.1 hpart.2 hlast hlastNe pat, ?_⟩
      simp [hpart.2]

lemma trimStart_append_cons {blank rest : List Char}
    (hblank : ∀ d ∈ blank, isWhitespace d = true) (hc : isWhitespace c = false) :
    trimStart (String.ofList (blank ++ c :: rest)) = String.ofList (c :: rest) := by
  rw [trimStart, String.toList_ofList, List.dropWhile_append_of_pos hblank,
    List.dropWhile_cons_of_neg (by simp [hc])]

lemma trim_cons_of_isWhitespace (hc : isWhitespace c = true) (rest : List Char) :
    trim (String.ofList (c :: rest)) = trim (String.ofList rest) := by
  rw [trim, trim, String.toList_ofList, String.toList_ofList, List.dropWhile_cons_of_pos hc]

lemma mem_of_mem_trim {s : String} (hc : c ∈ (trim s).toList) : c ∈ s.toList := by
  rw [trim, String.toList_ofList] at hc
  exact (List.dropWhile_suffix _).subset ((List.rdropWhile_prefix _ _).subset hc)

lemma length_trim_le (s : String) : (trim s).toList.length ≤ s.toList.length := by
  rw [trim, String.toList_ofList]
  exact (List.rdropWhile_prefix _ _).length_le.trans (List.dropWhile_suffix _).length_le

lemma length_trimStart_le (s : String) : (trimStart s).toList.length ≤ s.toList.length := by
  rw [trimStart, String.toList_ofList]
  exact (List.dropWhile_suffix _).length_le

end Trimming

section Cutting

variable {p : Char → Bool}

lemma cutAt_append_cons {front rest : List Char} {c : Char}
    (hfront : ∀ d ∈ front, p d = false) (hc : p c = true) :
    cutAt p (String.ofList (front ++ c :: rest)) =
      (String.ofList front, String.ofList (c :: rest)) := by
  have htake : (front ++ c :: rest).takeWhile (fun d => !p d) = front := by
    rw [List.takeWhile_append_of_pos (by simpa using hfront)]
    simp [hc]
  have hdrop : (front ++ c :: rest).dropWhile (fun d => !p d) = c :: rest := by
    rw [List.dropWhile_append_of_pos (by simpa using hfront)]
    simp [hc]
  rw [cutAt, String.toList_ofList, List.span_eq_takeWhile_dropWhile, htake, hdrop]

lemma toList_cutAt (p : Char → Bool) (s : String) :
    (cutAt p s).1.toList ++ (cutAt p s).2.toList = s.toList := by
  simp [cutAt]

lemma of_mem_cutAt {s : String} {c : Char} (hc : c ∈ (cutAt p s).1.toList) : p c = false := by
  simp only [cutAt, List.span_eq_takeWhile_dropWhile, String.toList_ofList] at hc
  simpa using List.mem_takeWhile_imp hc

end Cutting

end Text
