/-
The file id of a bridge profile (`bridge_profiles.rs`): characters outside the
alphabet become `-`, runs of `-` are collapsed, the ends are trimmed and what is
left is cut to 64 characters.
-/
import IlinkHub.Text

namespace IlinkHub

namespace ProfileId

/-- `char::is_ascii_alphanumeric`, `-` or `_`. -/
def allowed (c : Char) : Bool :=
  c.isAlphanum || c == '-' || c == '_'

/-- `contains("--")`. -/
def doubled : List Char → Bool
  | '-' :: '-' :: _ => true
  | _ :: rest => doubled rest
  | [] => false

/-- `replace("--", "-")`: the matches are taken from the left and do not
overlap. -/
def halve : List Char → List Char
  | '-' :: '-' :: rest => '-' :: halve rest
  | c :: rest => c :: halve rest
  | [] => []

lemma length_halve_le (text : List Char) : (halve text).length ≤ text.length := by
  fun_induction halve text with
  | case1 rest ih =>
    simp only [List.length_cons]
    omega
  | case2 c rest _ ih => exact Nat.succ_le_succ ih
  | case3 => exact le_refl _

variable {text : List Char}

lemma length_halve_lt (hdouble : doubled text = true) : (halve text).length < text.length := by
  fun_induction halve text with
  | case1 rest _ =>
    have hle := length_halve_le rest
    simp only [List.length_cons]
    omega
  | case2 c rest hne ih =>
    rw [doubled.eq_2 _ _ hne] at hdouble
    exact Nat.succ_lt_succ (ih hdouble)
  | case3 => cases hdouble

/-- `while out.contains("--")`: every pass shortens the text. -/
def collapse (text : List Char) : List Char :=
  if doubled text = true then collapse (halve text) else text
termination_by text.length
decreasing_by exact length_halve_lt ‹_›

/-- `trim_matches('-')`. -/
def trimDashes (text : List Char) : List Char :=
  (text.dropWhile (· == '-')).rdropWhile (· == '-')

/-- The id before it is cut. -/
def slug (raw : String) : List Char :=
  trimDashes (collapse ((Text.trim raw).toList.map fun c => if allowed c then c else '-'))

lemma doubled_iff : doubled text = true ↔ ['-', '-'] <:+: text := by
  fun_induction doubled text with
  | case1 rest => exact ⟨fun _ => ⟨[], rest, rfl⟩, fun _ => rfl⟩
  | case2 c rest hne ih =>
    rw [ih, List.infix_cons_iff, or_iff_right]
    rintro ⟨back, hback⟩
    cases hback
    exact hne back rfl rfl
  | case3 => simp

lemma doubled_collapse (text : List Char) : doubled (collapse text) = false := by
  fun_induction collapse text with
  | case1 text _ ih => exact ih
  | case2 text hnone => exact Bool.eq_false_iff.mpr hnone

lemma mem_of_mem_halve {c : Char} (hc : c ∈ halve text) : c ∈ text := by
  fun_induction halve text with
  | case1 rest ih => grind
  | case2 d rest _ ih => grind
  | case3 => exact hc

lemma mem_of_mem_collapse {c : Char} (hc : c ∈ collapse text) : c ∈ text := by
  fun_induction collapse text with
  | case1 text _ ih => exact mem_of_mem_halve (ih hc)
  | case2 => exact hc

lemma trimDashes_isInfix (text : List Char) : trimDashes text <:+: text :=
  (List.rdropWhile_prefix _ _).isInfix.trans (List.dropWhile_suffix _).isInfix

lemma getLast?_trimDashes (text : List Char) : (trimDashes text).getLast? ≠ some '-' := by
  intro hlast
  obtain ⟨hne, hdash⟩ := List.mem_getLast?_eq_getLast hlast
  exact List.rdropWhile_last_not _ _ hne (beq_iff_eq.mpr hdash.symm)

lemma head?_trimDashes (text : List Char) : (trimDashes text).head? ≠ some '-' := by
  intro hhead
  obtain ⟨rest, hrest⟩ := List.rdropWhile_prefix (· == '-') (text.dropWhile (· == '-'))
  have hfirst : (text.dropWhile (· == '-')).head? = some '-' := by
    rw [← hrest, List.head?_append, ← trimDashes, hhead, Option.some_or]
  simpa [hfirst] using List.head?_dropWhile_not (· == '-') text

lemma isWhitespace_of_allowed {c : Char} (hc : allowed c = true) : Text.isWhitespace c = false := by
  simp only [allowed, Bool.or_eq_true, beq_iff_eq] at hc
  rcases hc with (hc | rfl) | rfl
  · have hrange : 48 ≤ c.toNat ∧ c.toNat ≤ 122 := by
      delta Char.isAlphanum Char.isAlpha Char.isUpper Char.isLower Char.isDigit at hc
      simp only [Bool.or_eq_true, Bool.and_eq_true, decide_eq_true_eq] at hc
      change ((65 ≤ c.toNat ∧ c.toNat ≤ 90) ∨ (97 ≤ c.toNat ∧ c.toNat ≤ 122)) ∨
        (48 ≤ c.toNat ∧ c.toNat ≤ 57) at hc
      omega
    simp only [Text.isWhitespace, Bool.or_eq_false_iff, Bool.and_eq_false_imp,
      decide_eq_true_eq, decide_eq_false_iff_not, beq_eq_false_iff_ne]
    omega
  · rfl
  · rfl

end ProfileId

open ProfileId

def sanitizeProfileFileId (raw : String) : Except String String :=
  let out := (slug raw).take 64
  if out = [] then
    .error "请填写 workspace 名称（仅支持字母、数字、-、_；其他字符会转换为 -）"
  else .ok (String.ofList out)

namespace ProfileId

/-- What an id looks like, and that it names itself. -/
structure NormalForm (id : String) : Prop where
  nonempty : 1 ≤ id.toList.length
  short : id.toList.length ≤ 64
  alphabet : ∀ c ∈ id.toList, allowed c = true
  starts : id.toList.head? ≠ some '-'
  ends : id.toList.getLast? ≠ some '-'
  stable : sanitizeProfileFileId id = .ok id

lemma allowed_of_mem_slug {raw : String} {c : Char} (hc : c ∈ slug raw) : allowed c = true := by
  have hmem := mem_of_mem_collapse ((trimDashes_isInfix _).subset hc)
  obtain ⟨d, -, rfl⟩ := List.mem_map.mp hmem
  split
  · next hd => exact hd
  · rfl

lemma doubled_slug_take (raw : String) (n : Nat) : doubled ((slug raw).take n) = false := by
  rw [← Bool.not_eq_true, doubled_iff]
  intro hwithin
  have hslug := (hwithin.trans (List.take_prefix n _).isInfix).trans (trimDashes_isInfix _)
  simp [← doubled_iff, doubled_collapse] at hslug

lemma slug_eq_self {id : String} (hall : ∀ c ∈ id.toList, allowed c = true)
    (hdouble : doubled id.toList = false) (hstarts : id.toList.head? ≠ some '-')
    (hends : id.toList.getLast? ≠ some '-') : slug id = id.toList := by
  have htrim := Text.trim_eq_self fun c hc => isWhitespace_of_allowed (hall c hc)
  have hmap : (id.toList.map fun c => if allowed c then c else '-') = id.toList := by
    rw [List.map_congr_left fun c hc => if_pos (hall c hc), List.map_id']
  have hcollapse : collapse id.toList = id.toList := by
    rw [collapse, if_neg (by simp [hdouble])]
  have hfront : id.toList.dropWhile (· == '-') = id.toList := by
    cases hchars : id.toList with
    | nil => rfl
    | cons c rest =>
      rw [hchars] at hstarts
      exact List.dropWhile_cons_of_neg (by simpa using hstarts)
  have hback : id.toList.rdropWhile (· == '-') = id.toList := by
    rw [List.rdropWhile_eq_self_iff]
    intro hne hlast
    exact hends (by simpa [List.getLast?_eq_some_getLast hne] using hlast)
  rw [slug, htrim, hmap, hcollapse, trimDashes, hfront, hback]

lemma sanitize_eq_ok_iff {raw id : String} :
    sanitizeProfileFileId raw = .ok id ↔ slug raw ≠ [] ∧ id.toList = (slug raw).take 64 := by
  unfold sanitizeProfileFileId
  have hnil : (slug raw).take 64 = [] ↔ slug raw = [] := by simp
  simp only [hnil]
  split
  · next hempty => simp [hempty]
  · next hne =>
    rw [Except.ok.injEq, ← String.toList_inj, String.toList_ofList, eq_comm]
    exact (and_iff_right hne).symm

lemma sanitize_eq_self {id : String} (hall : ∀ c ∈ id.toList, allowed c = true)
    (hdouble : doubled id.toList = false) (hstarts : id.toList.head? ≠ some '-')
    (hends : id.toList.getLast? ≠ some '-') (hne : 0 < id.toList.length)
    (hshort : id.toList.length ≤ 64) : sanitizeProfileFileId id = .ok id := by
  rw [sanitize_eq_ok_iff, slug_eq_self hall hdouble hstarts hends, List.take_of_length_le hshort]
  exact ⟨List.ne_nil_of_length_pos hne, rfl⟩

lemma getLast?_take_slug (raw : String) :
    ((slug raw).take 64).getLast? = some '-' ↔ (slug raw)[63]? = some '-' := by
  rw [List.getLast?_take]
  cases hcut : (slug raw)[63]? with
  | none =>
    exact iff_of_false (getLast?_trimDashes _) (by simp)
  | some c => rfl

end ProfileId

/-- An id is a normal form unless the cut falls behind a `-`. -/
theorem sanitizeProfileFileId_normal_iff (raw : String) :
    (∀ id, sanitizeProfileFileId raw = .ok id → NormalForm id) ↔ (slug raw)[63]? ≠ some '-' := by
  constructor
  · intro hnormal hcut
    have hne : slug raw ≠ [] := by
      intro hnil
      simp [hnil] at hcut
    have hid := hnormal _ (sanitize_eq_ok_iff.mpr ⟨hne, String.toList_ofList⟩)
    refine hid.ends ?_
    rw [String.toList_ofList]
    exact (getLast?_take_slug raw).mpr hcut
  · intro hcut id hid
    obtain ⟨hne, hid⟩ := sanitize_eq_ok_iff.mp hid
    have hlength : id.toList.length = min 64 (slug raw).length := by rw [hid, List.length_take]
    have hpos := List.length_pos_of_ne_nil hne
    have hall : ∀ c ∈ id.toList, allowed c = true := by
      intro c hc
      rw [hid] at hc
      exact allowed_of_mem_slug (List.mem_of_mem_take hc)
    have hstarts : id.toList.head? ≠ some '-' := by
      rw [hid, List.head?_take]
      exact head?_trimDashes _
    have hends : id.toList.getLast? ≠ some '-' := by
      rw [hid]
      exact fun hlast => hcut ((getLast?_take_slug raw).mp hlast)
    have hdouble : doubled id.toList = false := by rw [hid, doubled_slug_take]
    exact ⟨by omega, by omega, hall, hstarts, hends,
      sanitize_eq_self hall hdouble hstarts hends (by omega) (by omega)⟩

/-- An id of 64 characters that is another one when it is sanitised again. -/
theorem sanitizeProfileFileId_ends_in_dash :
    sanitizeProfileFileId (String.ofList (List.replicate 63 'a' ++ ['-', 'b'])) =
        .ok (String.ofList (List.replicate 63 'a' ++ ['-'])) ∧
      sanitizeProfileFileId (String.ofList (List.replicate 63 'a' ++ ['-'])) =
        .ok (String.ofList (List.replicate 63 'a')) := by
  have hraw : slug (String.ofList (List.replicate 63 'a' ++ ['-', 'b'])) =
      List.replicate 63 'a' ++ ['-', 'b'] := by
    rw [slug, collapse]
    decide
  have hid : slug (String.ofList (List.replicate 63 'a' ++ ['-'])) = List.replicate 63 'a' := by
    rw [slug, collapse]
    decide
  constructor
  · rw [sanitize_eq_ok_iff, hraw]
    decide
  · rw [sanitize_eq_ok_iff, hid]
    decide

end IlinkHub
