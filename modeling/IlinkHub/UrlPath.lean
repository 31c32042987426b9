/-
The path of a URL with the scheme `http`, by the rules of the URL standard: what
is dropped before parsing, where a segment ends, and what the dot segments do.
Segments are kept as they are written, without the percent-encoding of what is
not allowed in a path.
-/
import Mathlib.Data.List.Infix
import IlinkHub.Text

namespace UrlPath

section Parsing

/-- The controls up to U+001F, and the space. -/
def isC0OrSpace (c : Char) : Bool :=
  c.toNat ≤ 32

def isTabOrNewline (c : Char) : Bool :=
  c = '\t' || c = '\n' || c = '\r'

/-- The backslash is a slash. -/
def isSlash (c : Char) : Bool :=
  c = '/' || c = '\\'

/-- Where the authority ends. -/
def endsAuthority (c : Char) : Bool :=
  isSlash c || c = '?' || c = '#'

/-- What is left of the input. -/
def cleaned (input : List Char) : List Char :=
  (((input.dropWhile isC0OrSpace).reverse.dropWhile
    isC0OrSpace).reverse).filter fun c => !isTabOrNewline c

/-- The pieces between slashes. -/
def segments : List Char → List (List Char)
  | [] => [[]]
  | c :: rest =>
    if isSlash c then [] :: segments rest
    else
      match segments rest with
      | [] => [[c]]
      | first :: others => (c :: first) :: others

def isSingleDot (segment : List Char) : Bool :=
  segment.map Char.toLower = ['.'] || segment.map Char.toLower = ['%', '2', 'e']

def isDoubleDot (segment : List Char) : Bool :=
  [['.', '.'], ['.', '%', '2', 'e'], ['%', '2', 'e', '.'],
    ['%', '2', 'e', '%', '2', 'e']].contains (segment.map Char.toLower)

lemma of_isDoubleDot {segment : List Char} (hdots : isDoubleDot segment = true) :
    ∃ first second, segment = first ++ second ∧ isSingleDot first = true ∧
      isSingleDot second = true := by
  have hspelled : ∃ first ∈ [['.'], ['%', '2', 'e']], ∃ second ∈ [['.'], ['%', '2', 'e']],
      segment.map Char.toLower = first ++ second := by
    simpa [isDoubleDot, or_assoc] using hdots
  obtain ⟨first, hfirst, second, hsecond, hmap⟩ := hspelled
  obtain ⟨front, back, rfl, rfl, rfl⟩ := List.map_eq_append_iff.mp hmap
  exact ⟨front, back, rfl, by simpa [isSingleDot] using hfirst,
    by simpa [isSingleDot] using hsecond⟩

/-- A segment that a slash follows. -/
def push (path : List (List Char)) (segment : List Char) : List (List Char) :=
  if isDoubleDot segment then path.dropLast
  else if isSingleDot segment then path
  else path ++ [segment]

/-- The last segment: after a dot segment the path ends in a slash. -/
def finish (path : List (List Char)) (segment : List Char) : List (List Char) :=
  if isDoubleDot segment then path.dropLast ++ [[]]
  else if isSingleDot segment then path ++ [[]]
  else path ++ [segment]

def resolve : List (List Char) → List (List Char) → List (List Char)
  | path, [] => path
  | path, [last] => finish path last
  | path, segment :: next :: rest => resolve (push path segment) (next :: rest)

/-- The path of what follows the authority, up to a query or a fragment. -/
def parsePath (text : List Char) : List (List Char) :=
  match text.takeWhile fun c => !(c = '?' || c = '#') with
  | [] => [[]]
  | c :: rest => resolve [] (segments (if isSlash c then rest else c :: rest))

/-- The path of `http://` with an authority and more. -/
def pathOf (url : List Char) : List (List Char) :=
  parsePath (((cleaned url).drop "http://".length).dropWhile fun c => !endsAuthority c)

end Parsing

/-- A path from where one is: how far up it goes, and what it names from there. -/
def relative : List (List Char) → Nat × List (List Char)
  | [] => (0, [])
  | segment :: rest =>
    if isDoubleDot segment then ((relative rest).1 + 1, (relative rest).2)
    else if isSingleDot segment then relative rest
    else
      match relative rest with
      | (0, names) => (0, segment :: names)
      | (up + 1, names) => (up, names)

section Relative

lemma push_relative (path : List (List Char)) (segments : List (List Char)) :
    segments.foldl push path = path.take (path.length - (relative segments).1) ++
        (relative segments).2 := by
  induction segments generalizing path with
  | nil => simp [relative]
  | cons segment rest ih =>
    rw [List.foldl_cons, ih, push, relative]
    by_cases hdouble : isDoubleDot segment = true
    · rw [if_pos hdouble, if_pos hdouble, List.dropLast_eq_take, List.take_take, List.length_take]
      congr 2
      omega
    · rw [if_neg hdouble, if_neg hdouble]
      by_cases hsingle : isSingleDot segment = true
      · rw [if_pos hsingle, if_pos hsingle]
      · rw [if_neg hsingle, if_neg hsingle]
        obtain ⟨up, names⟩ := relative rest
        cases up with
        | zero => simp [List.take_of_length_le]
        | succ up =>
          simp only [List.length_append, List.length_singleton, Nat.add_sub_add_right]
          rw [List.take_append_of_le_length (Nat.sub_le _ _)]

/-- The segments that act on the path, and the one at its end: after a dot
segment it is empty. -/
def closing : List (List Char) → List (List Char) × List Char
  | [] => ([], [])
  | [last] =>
    if isDoubleDot last || isSingleDot last then ([last], []) else ([], last)
  | segment :: next :: rest =>
    (segment :: (closing (next :: rest)).1, (closing (next :: rest)).2)

variable {segments : List (List Char)}

lemma mem_of_mem_closing {segment : List Char} (hmem : segment ∈ (closing segments).1) :
    segment ∈ segments := by
  induction segments with
  | nil => cases hmem
  | cons first rest ih =>
    cases rest with
    | nil =>
      unfold closing at hmem
      split at hmem
      · exact hmem
      · cases hmem
    | cons next rest =>
      rcases List.mem_cons.mp hmem with rfl | hrest
      · exact List.mem_cons_self
      · exact List.mem_cons_of_mem _ (ih hrest)

lemma resolve_eq (path : List (List Char)) (hsome : segments ≠ []) :
    resolve path segments = (closing segments).1.foldl push path ++ [(closing segments).2] := by
  induction segments generalizing path with
  | nil => exact absurd rfl hsome
  | cons segment rest ih =>
    cases rest with
    | nil =>
      simp only [resolve, finish, closing]
      by_cases hdouble : isDoubleDot segment = true
      · simp [hdouble, push]
      · by_cases hsingle : isSingleDot segment = true
        · simp [hdouble, hsingle, push]
        · simp [hdouble, hsingle]
    | cons next rest =>
      rw [resolve, ih (push path segment) (List.cons_ne_nil next rest)]
      rfl

/-- The path goes on below a directory. -/
def Below (base path : List (List Char)) : Prop :=
  ∃ more, more ≠ [] ∧ path = base ++ more

/-- What a relative path leaves of a directory it names again. -/
def ReturnsTo (base segments : List (List Char)) : Prop :=
  base.drop (base.length - (relative (closing segments).1).1) <+: (relative (closing segments).1).2
deriving Decidable

/-- Without a segment of two dots the path goes nowhere up. -/
lemma returnsTo_of_forall (base : List (List Char))
    (hnone : ∀ segment ∈ segments, isDoubleDot segment = false) : ReturnsTo base segments := by
  have hup : ∀ names : List (List Char), (∀ name ∈ names, isDoubleDot name = false) →
      (relative names).1 = 0 := by
    intro names
    induction names with
    | nil => exact fun _ => rfl
    | cons name rest ih =>
      intro hall
      have hrest := ih fun other hother => hall other (List.mem_cons_of_mem _ hother)
      rw [relative, if_neg (by rw [hall name List.mem_cons_self]; decide)]
      split
      · exact hrest
      · split
        · rfl
        · next heq =>
          rw [heq] at hrest
          cases hrest
  rw [ReturnsTo, hup _ fun name hname => hnone name (mem_of_mem_closing hname), Nat.sub_zero,
    List.drop_length]
  exact List.nil_prefix

/-- A relative path stays below the directory where it starts exactly if it names
again what it leaves. -/
lemma below_resolve_iff (base : List (List Char)) (hsome : segments ≠ []) :
    Below base (resolve base segments) ↔ ReturnsTo base segments := by
  rw [resolve_eq base hsome, push_relative, ReturnsTo]
  generalize base.length - (relative (closing segments).1).1 = kept
  generalize (relative (closing segments).1).2 = names
  generalize (closing segments).2 = last
  rw [List.append_assoc]
  constructor
  · rintro ⟨more, hmore, heq⟩
    have hrest : names ++ [last] = base.drop kept ++ more := by
      have hbase := List.take_append_drop kept base
      rw [← hbase, List.append_assoc] at heq
      nth_rewrite 1 [hbase] at heq
      exact List.append_cancel_left heq
    obtain ⟨front, final, rfl⟩ :=
      (List.eq_nil_or_concat more).resolve_left hmore
    rw [List.concat_eq_append, ← List.append_assoc] at hrest
    exact ⟨front, (List.append_inj' hrest rfl).1.symm⟩
  · rintro ⟨more, rfl⟩
    refine ⟨more ++ [last], by simp, ?_⟩
    rw [List.append_assoc, ← List.append_assoc, List.take_append_drop]

end Relative

section Segments

lemma segments_ne_nil (text : List Char) : segments text ≠ [] := by
  cases text with
  | nil => exact List.cons_ne_nil _ _
  | cons c rest =>
    unfold segments
    split
    · exact List.cons_ne_nil _ _
    · split <;> exact List.cons_ne_nil _ _

lemma infix_of_segments {text first : List Char} {others : List (List Char)}
    (heq : segments text = first :: others) :
    first <+: text ∧ ∀ segment ∈ others, segment <:+: text := by
  induction text generalizing first others with
  | nil =>
    cases heq
    exact ⟨List.nil_prefix, fun _ hmem => by cases hmem⟩
  | cons c rest ih =>
    obtain ⟨next, more, hrest⟩ := List.exists_cons_of_ne_nil (segments_ne_nil rest)
    obtain ⟨hnext, hmore⟩ := ih hrest
    rw [segments, hrest] at heq
    split at heq
    · cases heq
      refine ⟨List.nil_prefix, fun segment hmem => ?_⟩
      rcases List.mem_cons.mp hmem with rfl | hmem
      · exact List.infix_cons hnext.isInfix
      · exact List.infix_cons (hmore segment hmem)
    · cases heq
      exact ⟨List.cons_prefix_cons.mpr ⟨rfl, hnext⟩, fun segment hmem =>
        List.infix_cons (hmore segment hmem)⟩

lemma infix_of_mem_segments {text segment : List Char} (hmem : segment ∈ segments text) :
    segment <:+: text := by
  obtain ⟨first, others, heq⟩ := List.exists_cons_of_ne_nil (segments_ne_nil text)
  obtain ⟨hfirst, hothers⟩ := infix_of_segments heq
  rw [heq] at hmem
  rcases List.mem_cons.mp hmem with rfl | hmem
  · exact hfirst.isInfix
  · exact hothers segment hmem

end Segments

section Stripping

/-- What is dropped anywhere in the input. -/
def stripped (text : List Char) : List Char :=
  text.filter fun c => !isTabOrNewline c

/-- A tab or a line break stands between characters that are not dropped. -/
def Parted (segment : List Char) : Prop :=
  ∃ front c back, segment = front ++ c :: back ∧ isTabOrNewline c = true ∧
    stripped front ≠ [] ∧ stripped back ≠ []

variable {c : Char} {text : List Char}

lemma stripped_cons_of_pos (hc : isTabOrNewline c = true) : stripped (c :: text) = stripped text :=
  List.filter_cons_of_neg (by simp [hc])

lemma stripped_cons_of_neg (hc : ¬ isTabOrNewline c = true) :
    stripped (c :: text) = c :: stripped text :=
  List.filter_cons_of_pos (by simp [hc])

lemma isSlash_of_isTabOrNewline (hc : isTabOrNewline c = true) : isSlash c = false := by
  simp only [isTabOrNewline, Bool.or_eq_true, decide_eq_true_eq] at hc
  rcases hc with (rfl | rfl) | rfl <;> rfl

/-- No tab or line break is a slash, so it does not matter when they are dropped. -/
lemma segments_stripped (text : List Char) :
    segments (stripped text) = (segments text).map stripped := by
  induction text with
  | nil => rfl
  | cons c rest ih =>
    obtain ⟨first, others, hrest⟩ := List.exists_cons_of_ne_nil (segments_ne_nil rest)
    rw [hrest, List.map_cons] at ih
    by_cases hc : isTabOrNewline c = true
    · rw [stripped_cons_of_pos hc, segments, isSlash_of_isTabOrNewline hc, hrest, ih]
      simp [stripped_cons_of_pos hc]
    · rw [stripped_cons_of_neg hc, segments, segments, hrest, ih]
      split
      · rfl
      · simp [stripped_cons_of_neg hc]

lemma isPrefix_stripped
    (hlast : ∀ front c back, text = front ++ c :: back → isTabOrNewline c = true →
      stripped back = []) : stripped text <+: text := by
  induction text with
  | nil => exact List.prefix_rfl
  | cons c rest ih =>
    by_cases hc : isTabOrNewline c = true
    · rw [stripped_cons_of_pos hc, hlast [] c rest rfl hc]
      exact List.nil_prefix
    · rw [stripped_cons_of_neg hc, List.cons_prefix_cons]
      exact ⟨rfl, ih fun front d back heq => hlast (c :: front) d back (congrArg _ heq)⟩

/-- Where nothing is dropped in between, what is left stands together. -/
lemma isInfix_stripped (hwhole : ¬ Parted text) : stripped text <:+: text := by
  induction text with
  | nil => exact List.infix_rfl
  | cons c rest ih =>
    by_cases hc : isTabOrNewline c = true
    · rw [stripped_cons_of_pos hc]
      refine List.infix_cons (ih ?_)
      rintro ⟨front, d, back, rfl, hd, hfront, hback⟩
      exact hwhole ⟨c :: front, d, back, rfl, hd, by rwa [stripped_cons_of_pos hc], hback⟩
    · rw [stripped_cons_of_neg hc]
      refine (List.cons_prefix_cons.mpr ⟨rfl, isPrefix_stripped ?_⟩).isInfix
      intro front d back heq hd
      by_contra hback
      refine hwhole ⟨c :: front, d, back, congrArg _ heq, hd, ?_, hback⟩
      rw [stripped_cons_of_neg hc]
      exact List.cons_ne_nil _ _

end Stripping

section Cleaning

def trimmedEnd (rest : List Char) : List Char :=
  (rest.reverse.dropWhile isC0OrSpace).reverse

/-- What is left of the end of the input. -/
def cleanedEnd (rest : List Char) : List Char :=
  stripped (trimmedEnd rest)

lemma isTabOrNewline_of_not_isC0OrSpace {c : Char}
    (hc : isC0OrSpace c = false) : isTabOrNewline c = false := by
  by_contra htab
  rw [Bool.not_eq_false, isTabOrNewline] at htab
  simp only [Bool.or_eq_true, decide_eq_true_eq] at htab
  rcases htab with (rfl | rfl) | rfl <;> exact absurd hc (by decide)

lemma dropWhile_eq_self {p : Char → Bool} {text : List Char}
    (hnone : ∀ c ∈ text, p c = false) : text.dropWhile p = text := by
  cases text with
  | nil => rfl
  | cons c rest =>
    rw [List.dropWhile_cons_of_neg]
    rw [hnone c List.mem_cons_self]
    exact Bool.false_ne_true

/-- Text without controls and spaces stays, and what is behind it is cleaned by
itself. -/
lemma cleaned_append {front : List Char} (hsome : front ≠ [])
    (hplain : ∀ c ∈ front, isC0OrSpace c = false) (rest : List Char) :
    cleaned (front ++ rest) = front ++ cleanedEnd rest := by
  have hstart : (front ++ rest).dropWhile isC0OrSpace = front ++ rest := by
    cases front with
    | nil => exact absurd rfl hsome
    | cons c more =>
      rw [List.cons_append, List.dropWhile_cons_of_neg]
      rw [hplain c List.mem_cons_self]
      exact Bool.false_ne_true
  have hback := dropWhile_eq_self fun c hc => hplain c (List.mem_reverse.mp hc)
  have hend : (rest.reverse ++ front.reverse).dropWhile isC0OrSpace =
      rest.reverse.dropWhile isC0OrSpace ++ front.reverse := by
    rw [List.dropWhile_append]
    split
    · next hempty =>
      rw [hback, List.isEmpty_iff.mp hempty, List.nil_append]
    · rfl
  have hkept : front.filter (fun c => !isTabOrNewline c) = front := by
    rw [List.filter_eq_self]
    intro c hc
    rw [isTabOrNewline_of_not_isC0OrSpace (hplain c hc)]
    rfl
  rw [cleaned, hstart, List.reverse_append, hend, List.reverse_append,
    List.reverse_reverse, List.filter_append, hkept, cleanedEnd, stripped, trimmedEnd]

lemma isPrefix_trimmedEnd (rest : List Char) : trimmedEnd rest <+: rest := by
  have hsuffix := List.reverse_prefix.mpr (List.dropWhile_suffix isC0OrSpace (l := rest.reverse))
  rwa [List.reverse_reverse] at hsuffix

lemma mem_of_mem_cleanedEnd {rest : List Char} {c : Char} (hc : c ∈ cleanedEnd rest) : c ∈ rest :=
  (isPrefix_trimmedEnd rest).mem (List.mem_filter.mp hc).1

/-- The path of a URL whose authority ends with a slash. -/
lemma pathOf_of_cleaned {url authority text : List Char}
    (hauthority : ∀ c ∈ authority, endsAuthority c = false)
    (hcleaned : cleaned url = "http://".toList ++ (authority ++ '/' :: text))
    (hplain : ∀ c ∈ text, c ≠ '?' ∧ c ≠ '#') : pathOf url = resolve [] (segments text) := by
  have hlength : "http://".length = "http://".toList.length := by decide
  have hpath : (authority ++ '/' :: text).dropWhile (fun c => !endsAuthority c) = '/' :: text := by
    rw [List.dropWhile_append_of_pos]
    · rfl
    · intro c hc
      rw [hauthority c hc]
      rfl
  have hwhole : ('/' :: text).takeWhile
      (fun c => !(decide (c = '?') || decide (c = '#'))) = '/' :: text := by
    rw [List.takeWhile_eq_self_iff]
    intro c hc
    rcases List.mem_cons.mp hc with rfl | htext
    · rfl
    · simp [hplain c htext]
  rw [pathOf, hcleaned, hlength, List.drop_left, hpath, parsePath, hwhole]
  rfl

end Cleaning

end UrlPath
