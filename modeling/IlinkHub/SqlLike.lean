/-
`LIKE` with an escape sign, over an arbitrary alphabet.  One sign stands for any
text and one for any character; behind the escape sign a character stands for
itself.  How two characters are compared is a parameter.
-/
import Mathlib.Data.List.Forall2

namespace SqlLike

universe u

variable {α : Type u}

structure Signs (α : Type u) where
  any : α
  one : α
  escape : α

/-- Some end of the text is accepted. -/
def someSuffix (accepts : List α → Bool) : List α → Bool
  | [] => accepts []
  | c :: rest => accepts (c :: rest) || someSuffix accepts rest

/-- The text starts with an accepted character, and the rest is accepted. -/
def firstThen (accepts : α → Bool) (rest : List α → Bool) : List α → Bool
  | [] => false
  | c :: text => accepts c && rest text

variable [DecidableEq α]

/-- Whether a text matches the pattern.  One that ends in the escape sign is
matched by no text. -/
def like (signs : Signs α) (same : α → α → Bool) : List α → List α → Bool
  | [], text => text.isEmpty
  | sign :: pattern, text =>
    if sign = signs.escape then
      match pattern with
      | [] => false
      | own :: pattern => firstThen (same own) (like signs same pattern) text
    else if sign = signs.any then someSuffix (like signs same pattern) text
    else
      firstThen (fun c => decide (sign = signs.one) || same sign c) (like signs same pattern) text

/-- A character that stands for itself. -/
def escaped (signs : Signs α) (c : α) : List α :=
  if c = signs.escape ∨ c = signs.any ∨ c = signs.one then [signs.escape, c]
  else [c]

section Matching

variable {signs : Signs α} {same : α → α → Bool} {pattern text : List α}

lemma like_escaped (own : α) :
    like signs same (escaped signs own ++ pattern) text =
      firstThen (same own) (like signs same pattern) text := by
  unfold escaped
  split
  · exact if_pos rfl
  · next hplain =>
    rw [not_or, not_or] at hplain
    obtain ⟨hescape, hany, hone⟩ := hplain
    rw [List.cons_append, like.eq_def]
    dsimp only
    rw [if_neg hescape, if_neg hany, decide_eq_false hone]
    rfl

/-- An escaped text is matched by the texts that compare equal to it, sign by
sign. -/
lemma like_flatMap_escaped_append {own : List α} :
    like signs same (own.flatMap (escaped signs) ++ pattern) text = true ↔
      ∃ front rest, text = front ++ rest ∧ List.Forall₂ (fun sign c => same sign c = true) own
        front ∧ like signs same pattern rest = true := by
  induction own generalizing text with
  | nil =>
    constructor
    · intro hlike
      exact ⟨[], text, rfl, List.Forall₂.nil, hlike⟩
    · rintro ⟨front, rest, rfl, hsame, hlike⟩
      rw [List.forall₂_nil_left_iff.mp hsame]
      exact hlike
  | cons sign own ih =>
    rw [List.flatMap_cons, List.append_assoc]
    cases text with
    | nil =>
      rw [like_escaped]
      refine iff_of_false Bool.false_ne_true ?_
      rintro ⟨front, rest, htext, hsame, -⟩
      simp [(List.nil_eq_append_iff.mp htext).1] at hsame
    | cons c text =>
      rw [like_escaped, firstThen, Bool.and_eq_true, ih]
      constructor
      · rintro ⟨hc, front, rest, rfl, hsame, hlike⟩
        exact ⟨c :: front, rest, rfl, List.Forall₂.cons hc hsame, hlike⟩
      · rintro ⟨front, rest, htext, hsame, hlike⟩
        cases hsame with
        | cons hc hsame =>
          obtain ⟨rfl, rfl⟩ := List.cons.inj htext
          exact ⟨hc, _, rest, rfl, hsame, hlike⟩

lemma like_any (hsigns : signs.any ≠ signs.escape) (text : List α) :
    like signs same [signs.any] text = true := by
  have hends : ∀ text, someSuffix (like signs same []) text = true := by
    intro text
    induction text with
    | nil => rfl
    | cons c rest ih => rw [someSuffix, ih, Bool.or_true]
  rw [like.eq_def]
  dsimp only
  rw [if_neg hsigns, if_pos rfl]
  exact hends text

/-- With the sign for any text at its end, the pattern asks for a beginning. -/
lemma like_escaped_any_iff (hsigns : signs.any ≠ signs.escape) {own : List α} :
    like signs same (own.flatMap (escaped signs) ++ [signs.any]) text = true ↔
      ∃ front rest, text = front ++ rest ∧
        List.Forall₂ (fun sign c => same sign c = true) own front := by
  rw [like_flatMap_escaped_append]
  constructor
  · rintro ⟨front, rest, htext, hsame, -⟩
    exact ⟨front, rest, htext, hsame⟩
  · rintro ⟨front, rest, htext, hsame⟩
    exact ⟨front, rest, htext, hsame, like_any hsigns rest⟩

lemma like_escaped_fold_iff {β : Type*} [DecidableEq β] {fold : α → β}
    (hsigns : signs.any ≠ signs.escape) {own : List α} :
    like signs (fun sign c => fold sign == fold c) (own.flatMap (escaped signs) ++ [signs.any])
        text = true ↔ own.map fold <+: text.map fold := by
  have hsame : ∀ front, List.Forall₂ (fun sign c => (fold sign == fold c) = true) own front ↔
      own.map fold = front.map fold := by
    intro front
    simp only [beq_iff_eq]
    rw [← List.forall₂_eq_eq_eq, List.forall₂_map_left_iff, List.forall₂_map_right_iff]
  simp only [like_escaped_any_iff hsigns, hsame]
  constructor
  · rintro ⟨front, rest, rfl, heq⟩
    rw [heq, List.map_append]
    exact List.prefix_append _ _
  · rintro ⟨tail, htail⟩
    obtain ⟨front, rest, htext, hfront, -⟩ := List.map_eq_append_iff.mp htail.symm
    exact ⟨front, rest, htext, hfront.symm⟩

end Matching

end SqlLike
