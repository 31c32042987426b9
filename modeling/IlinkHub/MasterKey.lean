/-
The master key of the environment (`runtime/crypto.rs`): base64 first, then hexadecimal
digits, which are read from slices of two bytes.
-/
import IlinkHub.Base64
import IlinkHub.Text

namespace IlinkHub

open Text Base64

/-- `str::trim_matches` of a character. -/
def trimMatches (c : Char) (s : String) : String :=
  String.ofList ((s.toList.dropWhile (· == c)).rdropWhile (· == c))

/-- `char::to_digit(16)`. -/
def toDigit (c : Char) : Option Nat :=
  ("0123456789abcdefABCDEF".toList.idxOf? c).map fun i => if i < 16 then i else i - 6

/-- `u8::from_str_radix(_, 16)` of two ASCII characters, the first of which may be a sign. -/
def fromStrRadix16 (c d : Char) : Option UInt8 :=
  if c = '+' then (toDigit d).map .ofNat
  else
    match toDigit c, toDigit d with
    | some high, some low => some (.ofNat (high * 16 + low))
    | _, _ => none

inductive KeyResult where
  | ok (bytes : List UInt8)
  | error
  | panic
deriving Repr, DecidableEq

/-- The next two bytes of the text end inside a character. -/
def cutsChar : List Char → Bool
  | c :: d :: _ => decide (2 < c.utf8Size ∨ c.utf8Size = 1 ∧ 1 < d.utf8Size)
  | [c] => decide (2 < c.utf8Size)
  | [] => false

/-- The loop of `decode_hex`.  A character of two bytes is a slice, but no number. -/
def decodePairs : List Char → KeyResult
  | [] => .ok []
  | [c] => if cutsChar [c] then .panic else .error
  | c :: d :: rest =>
    if cutsChar (c :: d :: rest) then .panic
    else
      match if c.utf8Size = 2 then none else fromStrRadix16 c d with
      | none => .error
      | some byte =>
        match decodePairs rest with
        | .ok bytes => .ok (byte :: bytes)
        | .error => .error
        | .panic => .panic

def decodeHex (s : String) : KeyResult :=
  if s.utf8ByteSize % 2 = 0 then decodePairs s.toList else .error

/-- The text without the blanks and quotes around it. -/
def unquoted (s : String) : String :=
  trimMatches '\'' (trimMatches '"' (trim s))

def decodeKey (s : String) : KeyResult :=
  let s := unquoted s
  match decode s.toList with
  | some bytes => if bytes.length = 32 then .ok bytes else hexKey s
  | none => hexKey s
where
  hexKey (s : String) : KeyResult :=
    match decodeHex s with
    | .ok bytes => if bytes.length = 32 then .ok bytes else .error
    | .error => .error
    | .panic => .panic

/-- Pairs of hexadecimal digits, the first of which may be a plus. -/
def isPairs : List Char → Bool
  | [] => true
  | [_] => false
  | c :: d :: rest => (c == '+' || (toDigit c).isSome) && (toDigit d).isSome && isPairs rest

/-- A slice that is cut comes after nothing but pairs. -/
def CutAfterPairs (text : List Char) : Prop :=
  ∃ pairs rest, text = pairs ++ rest ∧ isPairs pairs = true ∧ cutsChar rest = true

/-- The two forms of a key. -/
def IsKeyText (text : List Char) : Prop :=
  (∃ bytes : List UInt8, bytes.length = 32 ∧ text = encode bytes) ∨
    text.length = 64 ∧ ∀ c ∈ text, (toDigit c).isSome = true

section Pairs

variable {c d : Char} {text : List Char}

lemma utf8Size_of_toDigit (hc : (toDigit c).isSome = true) : c.utf8Size = 1 := by
  rw [toDigit, Option.isSome_map, List.isSome_idxOf?] at hc
  have hall : ("0123456789abcdefABCDEF".toList.all fun c => c.utf8Size == 1) = true := by decide
  exact eq_of_beq (List.all_eq_true.mp hall c hc)

lemma fromStrRadix16_isSome : (fromStrRadix16 c d).isSome =
    ((c == '+' || (toDigit c).isSome) && (toDigit d).isSome) := by
  unfold fromStrRadix16
  by_cases hc : c = '+'
  · simp [hc]
  · rw [if_neg hc, beq_false_of_ne hc]
    cases toDigit c <;> cases toDigit d <;> rfl

lemma utf8Size_of_isPairs (hpairs : isPairs text = true) : ∀ c ∈ text, c.utf8Size = 1 := by
  induction text using isPairs.induct with
  | case1 => intro c hc; cases hc
  | case2 => cases hpairs
  | case3 c d rest ih =>
    simp only [isPairs, Bool.and_eq_true, Bool.or_eq_true, beq_iff_eq] at hpairs
    obtain ⟨⟨hc, hd⟩, hrest⟩ := hpairs
    intro own hown
    rcases List.mem_cons.mp hown with rfl | hown
    · rcases hc with rfl | hc
      · decide
      · exact utf8Size_of_toDigit hc
    · rcases List.mem_cons.mp hown with rfl | hown
      · exact utf8Size_of_toDigit hd
      · exact ih hrest own hown

lemma cutAfterPairs_cons {rest : List Char} (hwhole : cutsChar (c :: d :: rest) = false) :
    CutAfterPairs (c :: d :: rest) ↔ (fromStrRadix16 c d).isSome = true ∧ CutAfterPairs rest := by
  rw [fromStrRadix16_isSome]
  constructor
  · rintro ⟨pairs, tail, htext, hpairs, hcut⟩
    match pairs with
    | [] =>
      simp [← htext.trans (List.nil_append tail), hwhole] at hcut
    | _ :: _ :: pairs =>
      cases htext
      obtain ⟨hpair, hpairs⟩ := Bool.and_eq_true_iff.mp hpairs
      exact ⟨hpair, pairs, tail, rfl, hpairs, hcut⟩
  · rintro ⟨hpair, pairs, tail, rfl, hpairs, hcut⟩
    exact ⟨c :: d :: pairs, tail, rfl, Bool.and_eq_true_iff.mpr ⟨hpair, hpairs⟩, hcut⟩

/-- What the loop makes of a text, pair by pair. -/
lemma decodePairs_cases (text : List Char) :
    (CutAfterPairs text ∧ isPairs text = false ∧ decodePairs text = .panic) ∨
    (¬ CutAfterPairs text ∧ isPairs text = true ∧
      ∃ bytes, decodePairs text = .ok bytes ∧ text.length = 2 * bytes.length) ∨
    (¬ CutAfterPairs text ∧ isPairs text = false ∧ decodePairs text = .error) := by
  induction text using isPairs.induct with
  | case1 =>
    refine .inr (.inl ⟨?_, rfl, [], rfl, rfl⟩)
    rintro ⟨pairs, rest, htext, -, hcut⟩
    rw [(List.append_eq_nil_iff.mp htext.symm).2] at hcut
    cases hcut
  | case2 c =>
    by_cases hcut : cutsChar [c] = true
    · exact .inl ⟨⟨[], [c], rfl, rfl, hcut⟩, rfl, if_pos hcut⟩
    · refine .inr (.inr ⟨?_, rfl, if_neg hcut⟩)
      rintro ⟨pairs, rest, htext, hpairs, hrest⟩
      match pairs with
      | [] => exact hcut (htext.trans (List.nil_append rest) ▸ hrest)
      | _ :: _ :: _ => cases htext
  | case3 c d rest ih =>
    have hpairs : isPairs (c :: d :: rest) = ((fromStrRadix16 c d).isSome && isPairs rest) := by
      rw [fromStrRadix16_isSome]
      rfl
    by_cases hcut : cutsChar (c :: d :: rest) = true
    · refine .inl ⟨⟨[], _, rfl, rfl, hcut⟩, ?_, by rw [decodePairs, if_pos hcut]⟩
      rw [← Bool.not_eq_true]
      intro hall
      have hsize := utf8Size_of_isPairs hall
      simp [cutsChar, hsize c, hsize d] at hcut
    · rw [cutAfterPairs_cons (Bool.not_eq_true _ ▸ hcut), hpairs, decodePairs, if_neg hcut]
      cases hbyte : fromStrRadix16 c d with
      | none => simp
      | some byte =>
        have hsize : c.utf8Size ≠ 2 := by
          have hsome := @fromStrRadix16_isSome c d
          rw [hbyte, eq_comm, Option.isSome_some, Bool.and_eq_true, Bool.or_eq_true,
            beq_iff_eq] at hsome
          rcases hsome.1 with rfl | hhex
          · decide
          · rw [utf8Size_of_toDigit hhex]
            decide
        rw [if_neg hsize]
        rcases ih with ⟨hafter, hnot, hrest⟩ | ⟨hafter, hall, bytes, hrest, hlength⟩ |
          ⟨hafter, hnot, hrest⟩
        · simp [hafter, hnot, hrest]
        · refine .inr (.inl ⟨by simp [hafter], by simp [hall], byte :: bytes, ?_, ?_⟩)
          · rw [hrest]
          · simp [hlength, Nat.mul_add]
        · simp [hafter, hnot, hrest]

lemma byteSize_of_isPairs (hpairs : isPairs text = true) :
    (String.ofList text).utf8ByteSize = text.length := by
  have hsize := utf8Size_of_isPairs hpairs
  clear hpairs
  induction text with
  | nil => rfl
  | cons c rest ih =>
    obtain ⟨hc, hrest⟩ := List.forall_mem_cons.mp hsize
    rw [String.ofList_cons, String.utf8ByteSize_append, ih hrest, String.utf8ByteSize_singleton, hc,
      List.length_cons, add_comm]

lemma isPairs_iff (hplus : '+' ∉ text) :
    isPairs text = true ↔ text.length % 2 = 0 ∧ ∀ c ∈ text, (toDigit c).isSome = true := by
  induction text using isPairs.induct with
  | case1 => simp [isPairs]
  | case2 c => simp [isPairs]
  | case3 c d rest ih =>
    simp only [List.mem_cons, not_or] at hplus
    have hc := beq_false_of_ne (.symm hplus.1)
    simp only [isPairs, hc, Bool.false_or, Bool.and_eq_true, ih hplus.2.2, List.length_cons,
      List.forall_mem_cons]
    constructor
    · rintro ⟨⟨hc, hd⟩, hlength, hrest⟩
      exact ⟨by omega, hc, hd, hrest⟩
    · rintro ⟨hlength, hc, hd, hrest⟩
      exact ⟨⟨hc, hd⟩, by omega, hrest⟩

lemma toDigit_plus : toDigit '+' = none := by
  decide +kernel

end Pairs

/-- The texts that the parser gets wrong: they are cut inside a character, or taken with a
plus for a digit. -/
def Misread (s : String) : Prop :=
  (¬ ∃ bytes : List UInt8, bytes.length = 32 ∧ s.toList = encode bytes) ∧
    s.utf8ByteSize % 2 = 0 ∧ (CutAfterPairs s.toList ∨
      isPairs s.toList = true ∧ s.toList.length = 64 ∧ '+' ∈ s.toList)

section Key

variable {s : String}

lemma decodeKey_of_base64 {bytes : List UInt8} (hlength : bytes.length = 32)
    (htext : (unquoted s).toList = encode bytes) : decodeKey s = .ok bytes := by
  rw [decodeKey, htext, decode_encode]
  exact if_pos hlength

lemma decodeKey_of_not_base64
    (hnot : ¬ ∃ bytes, bytes.length = 32 ∧ (unquoted s).toList = encode bytes) :
    decodeKey s = decodeKey.hexKey (unquoted s) := by
  unfold decodeKey
  dsimp only
  split
  · next bytes hdecode =>
    rw [if_neg fun hlength => hnot ⟨bytes, hlength, (encode_of_decode hdecode).symm⟩]
  · rfl

lemma isPairs_of_digits (hlength : s.toList.length = 64)
    (hdigits : ∀ c ∈ s.toList, (toDigit c).isSome = true) :
    isPairs s.toList = true ∧ '+' ∉ s.toList := by
  have hplus : '+' ∉ s.toList := fun hmem => by
    have hsome := hdigits _ hmem
    simp [toDigit_plus] at hsome
  exact ⟨(isPairs_iff hplus).mpr ⟨by omega, hdigits⟩, hplus⟩

/-- The second form, where the text is not in the first one. -/
lemma hexKey_iff (s : String) :
    (decodeKey.hexKey s ≠ .panic ∧ ((∃ bytes, decodeKey.hexKey s = .ok bytes) ↔
        s.toList.length = 64 ∧ ∀ c ∈ s.toList, (toDigit c).isSome = true)) ↔
      ¬ (s.utf8ByteSize % 2 = 0 ∧ (CutAfterPairs s.toList ∨
        isPairs s.toList = true ∧ s.toList.length = 64 ∧ '+' ∈ s.toList)) := by
  have hsize : isPairs s.toList = true → s.utf8ByteSize = s.toList.length := fun hpairs => by
    have hbytes := byteSize_of_isPairs hpairs
    rwa [String.ofList_toList] at hbytes
  by_cases heven : s.utf8ByteSize % 2 = 0
  · rw [decodeKey.hexKey, decodeHex, if_pos heven]
    rcases decodePairs_cases s.toList with ⟨hcut, hnot, hresult⟩ |
      ⟨hcut, hpairs, bytes, hresult, hlength⟩ | ⟨hcut, hnot, hresult⟩
    · simp [hresult, hcut, heven]
    · have hform : (∃ own, (if bytes.length = 32 then KeyResult.ok bytes else .error) = .ok own) ↔
          s.toList.length = 64 := by
        split <;> simp <;> omega
      have hpanic : (if bytes.length = 32 then KeyResult.ok bytes else .error) ≠ .panic := by
        split <;> simp
      rw [hresult]
      rw [hform, and_iff_right hpanic, and_iff_right heven, or_iff_right hcut, and_iff_right hpairs]
      by_cases hplus : '+' ∈ s.toList
      · have hdigits : ¬ ∀ c ∈ s.toList, (toDigit c).isSome = true := fun h => by
          have hsome := h _ hplus
          cases hsome
        simp [hdigits, hplus]
      · have hdigits := ((isPairs_iff hplus).mp hpairs).2
        simp [hplus, iff_true_intro hdigits]
    · have hdigits : ¬ (s.toList.length = 64 ∧ ∀ c ∈ s.toList, (toDigit c).isSome = true) :=
        fun h => by
          simp [(isPairs_of_digits h.1 h.2).1] at hnot
      simp [hresult, hcut, hnot, hdigits]
  · have hdigits : ¬ (s.toList.length = 64 ∧ ∀ c ∈ s.toList, (toDigit c).isSome = true) :=
      fun h => by
        have hbytes := hsize (isPairs_of_digits h.1 h.2).1
        omega
    rw [decodeKey.hexKey, decodeHex]
    simp [heven, hdigits]

lemma decodeKey_right_iff (s : String) :
    (decodeKey s ≠ .panic ∧ ((∃ bytes, decodeKey s = .ok bytes) ↔ IsKeyText (unquoted s).toList)) ↔
      ¬ Misread (unquoted s) := by
  by_cases hbase : ∃ bytes, bytes.length = 32 ∧ (unquoted s).toList = encode bytes
  · obtain ⟨bytes, hlength, htext⟩ := hbase
    have hkey : IsKeyText (unquoted s).toList := .inl ⟨bytes, hlength, htext⟩
    have hright : ¬ Misread (unquoted s) := fun h => h.1 ⟨bytes, hlength, htext⟩
    rw [decodeKey_of_base64 hlength htext]
    simp [hkey, hright]
  · rw [decodeKey_of_not_base64 hbase, IsKeyText, or_iff_right hbase, hexKey_iff, Misread,
      and_iff_right hbase]

end Key

section Renderings

/-- A digit, in small or capital letters. -/
def hexChar (capital : Bool) (n : Nat) : Char :=
  (if capital then "0123456789ABCDEF" else "0123456789abcdef").toList.getD n '0'

def hexRendering (capital : Bool) (bytes : List UInt8) : String :=
  String.ofList (bytes.flatMap fun byte =>
    [hexChar capital (byte.toNat / 16), hexChar capital (byte.toNat % 16)])

lemma toDigit_hexChar (capital : Bool) {n : Nat} (hn : n < 16) :
    toDigit (hexChar capital n) = some n := by
  have hall : ∀ n < 16, toDigit (hexChar capital n) = some n := by
    cases capital <;> decide +kernel
  exact hall n hn

lemma decodePairs_hexRendering (capital : Bool) (bytes : List UInt8) :
    decodePairs (hexRendering capital bytes).toList = .ok bytes := by
  rw [hexRendering, String.toList_ofList]
  induction bytes with
  | nil => rfl
  | cons byte bytes ih =>
    have hbyte := byte.toNat_lt
    have hhigh := @toDigit_hexChar capital (byte.toNat / 16) (by omega)
    have hlow := @toDigit_hexChar capital (byte.toNat % 16) (by omega)
    have hhighSize := utf8Size_of_toDigit (by rw [hhigh]; rfl)
    have hlowSize := utf8Size_of_toDigit (by rw [hlow]; rfl)
    have hplus : hexChar capital (byte.toNat / 16) ≠ '+' := fun heq => by
      simp [heq, toDigit_plus] at hhigh
    have hvalue : byte.toNat / 16 * 16 + byte.toNat % 16 = byte.toNat := by omega
    rw [List.flatMap_cons, List.cons_append, List.cons_append, List.nil_append, decodePairs,
      if_neg (by simp [cutsChar, hhighSize, hlowSize]), if_neg (by omega), fromStrRadix16,
      if_neg hplus, hhigh, hlow]
    dsimp only
    rw [ih, hvalue, UInt8.ofNat_toNat]

/-- The characters of a rendering are neither blanks nor quotes. -/
lemma unquoted_eq_self {s : String} (hplain : ∀ c ∈ s.toList, c ∈ '=' :: alphabet) :
    unquoted s = s := by
  have hall : (('=' :: alphabet).all fun c =>
      !isWhitespace c && c != '"' && c != '\'') = true := by decide +kernel
  have hchar : ∀ c ∈ s.toList, isWhitespace c = false ∧ c ≠ '"' ∧ c ≠ '\'' := by
    intro c hc
    have hown := List.all_eq_true.mp hall c (hplain c hc)
    simpa [and_assoc] using hown
  have hmatches : ∀ c, c ∉ s.toList → trimMatches c s = s := by
    intro c hc
    have hne : ∀ d ∈ s.toList, (d == c) = false := fun d hd => beq_false_of_ne fun h => hc (h ▸ hd)
    have hdrop : s.toList.dropWhile (· == c) = s.toList := by
      cases htext : s.toList with
      | nil => rfl
      | cons d rest => rw [List.dropWhile_cons_of_neg (by simp [hne d (by simp [htext])])]
    have hrdrop : s.toList.rdropWhile (· == c) = s.toList := by
      rw [List.rdropWhile_eq_self_iff]
      intro hnil
      simp [hne _ (List.getLast_mem hnil)]
    rw [trimMatches, hdrop, hrdrop, String.ofList_toList]
  rw [unquoted, trim_eq_self fun c hc => (hchar c hc).1, hmatches _ fun hc => (hchar _ hc).2.1 rfl,
    hmatches _ fun hc => (hchar _ hc).2.2 rfl]

lemma mem_hexRendering {capital : Bool} {bytes : List UInt8} {c : Char}
    (hc : c ∈ (hexRendering capital bytes).toList) : c ∈ '=' :: alphabet := by
  rw [hexRendering, String.toList_ofList] at hc
  obtain ⟨byte, -, hc⟩ := List.mem_flatMap.mp hc
  have hbyte := byte.toNat_lt
  have hall : ∀ n < 16, hexChar capital n ∈ '=' :: alphabet := by
    cases capital <;> decide +kernel
  simp only [List.mem_cons, List.not_mem_nil, or_false] at hc
  rcases hc with rfl | rfl
  · exact hall _ (by omega)
  · exact hall _ (by omega)

lemma length_hexRendering (capital : Bool) (bytes : List UInt8) :
    (hexRendering capital bytes).toList.length = 2 * bytes.length := by
  simp [hexRendering, mul_comm]

lemma decodeKey_hexRendering (capital : Bool) {bytes : List UInt8} (hlength : bytes.length = 32) :
    decodeKey (hexRendering capital bytes) = .ok bytes := by
  have hself := unquoted_eq_self fun _ => @mem_hexRendering capital bytes _
  have hchars := length_hexRendering capital bytes
  have hpairs := decodePairs_hexRendering capital bytes
  have hsize : (hexRendering capital bytes).utf8ByteSize = 64 := by
    rcases decodePairs_cases (hexRendering capital bytes).toList with ⟨-, -, hresult⟩ |
      ⟨-, hpairs', -⟩ | ⟨-, -, hresult⟩
    · cases hpairs.symm.trans hresult
    · have hbytes := byteSize_of_isPairs hpairs'
      rw [String.ofList_toList] at hbytes
      omega
    · cases hpairs.symm.trans hresult
  rw [decodeKey_of_not_base64, hself, decodeKey.hexKey, decodeHex, if_pos (by omega), hpairs]
  · exact if_pos hlength
  · -- Base64 has 44 characters for 32 bytes.
    rintro ⟨own, hown, htext⟩
    have hlong := length_encode own
    rw [← htext, hself] at hlong
    omega

end Renderings

/-- Both renderings of a key are read back; a text is read as the two forms say exactly
if it is not misread. -/
theorem decodeKey_iff (s : String) :
    (∀ bytes : List UInt8, bytes.length = 32 →
      decodeKey (String.ofList (encode bytes)) = .ok bytes ∧
        ∀ capital, decodeKey (hexRendering capital bytes) = .ok bytes) ∧
    ((decodeKey s ≠ .panic ∧ ((∃ bytes, decodeKey s = .ok bytes) ↔ IsKeyText (unquoted s).toList)) ↔
      ¬ Misread (unquoted s)) := by
  refine ⟨fun bytes hlength => ⟨?_, fun capital => decodeKey_hexRendering capital hlength⟩,
    decodeKey_right_iff s⟩
  refine decodeKey_of_base64 hlength ?_
  rw [unquoted_eq_self, String.toList_ofList]
  intro c hc
  rw [String.toList_ofList] at hc
  exact List.mem_cons.mpr (mem_encode hc)

theorem decodeKey_zeros :
    (List.replicate 32 (0 : UInt8)).length = 32 ∧
      decodeKey (hexRendering false (List.replicate 32 0)) = .ok (List.replicate 32 0) :=
  ⟨rfl, ((decodeKey_iff "").1 (List.replicate 32 0) rfl).2 false⟩

/-- A slice that ends inside a character, and pluses for digits. -/
theorem decodeKey_misreads :
    decodeKey "aé1" = .panic ∧ decodeKey (String.ofList (List.replicate 32 ['+', 'f']).flatten) =
      .ok (List.replicate 32 15) := by
  decide +kernel

end IlinkHub
